import Display3270.Lifecycle

namespace Display3270

inductive Phase
  | connecting
  | serving
  | waiting
  | stopped
  deriving DecidableEq

/-- What happens to a client: on its connection, on its timer, and on the channel that the user's
input comes through. Input arrives and the channel closes whatever the client does; `taken` is the
client's own receiving from the channel. -/
inductive Signal
  | connected
  | refused
  | line (text : String)
  | hangUp
  | timer
  | input (input : UserInput)
  | inputClosed
  | taken

inductive Act
  | told (event : Event)
  | traced (message : String)
  | sent (message : String)
  | observed (session : Session)

structure Client (α : Type) where
  lifecycle : Lifecycle α
  phase : Phase
  queue : List UserInput
  ended : Bool

namespace Client

variable {α : Type} [LE α] [LT α] [DecidableLE α] [DecidableLT α] [Mul α]
variable [OfNat α 0] [OfNat α 1]

def start (l : Lifecycle α) : Client α := ⟨l.beginConnect, .connecting, [], false⟩

def told (events : List Event) : List Act := events.map .told

def goOn (c : Client α) (l : Lifecycle α) (phase : Phase) : Client α := ⟨l, phase, c.queue, c.ended⟩

def disconnect (c : Client α) : Client α × List Act :=
  let (l, events, _) := c.lifecycle.closed
  (c.goOn l .waiting, told events)

def stop (c : Client α) : Client α × List Act :=
  let (l, events) := c.lifecycle.shutdown
  (c.goOn l .stopped, told events)

def receive (c : Client α) (text : String) : Client α × List Act :=
  let (l, events, result) := c.lifecycle.receive text
  let acts := .traced text :: told events
  match result with
  | .ok () => (c.goOn l c.phase, acts ++ if l.attached then [.observed l.session] else [])
  | .error _ =>
    -- the connection ends, so that the host sends its state again
    let (next, more) := (c.goOn l c.phase).disconnect
    (next, acts ++ more)

def send (c : Client α) (input : UserInput) : Except ConnectionError (Client α × List Act) := do
  let text ← c.lifecycle.outbound input
  return (c, text.toList.map .sent)

/-- Takes what is next in the channel; its end comes after all that has arrived. While a client
connects it takes nothing, so that input stays in the channel until it serves or waits. -/
def take (c : Client α) : Except ConnectionError (Client α × List Act) :=
  match c.phase, c.queue with
  | .serving, i :: rest => send ⟨c.lifecycle, c.phase, rest, c.ended⟩ i
  | .waiting, _ :: rest => .ok (⟨c.lifecycle, c.phase, rest, c.ended⟩, [])
  | .serving, [] | .waiting, [] => .ok (if c.ended then c.stop else (c, []))
  | .connecting, _ | .stopped, _ => .ok (c, [])

def step (c : Client α) (s : Signal) : Except ConnectionError (Client α × List Act) :=
  match c.phase, s with
  | .stopped, _ => .ok (c, [])
  | _, .input i =>
    .ok (if c.ended then c else ⟨c.lifecycle, c.phase, c.queue ++ [i], c.ended⟩, [])
  | _, .inputClosed => .ok (⟨c.lifecycle, c.phase, c.queue, true⟩, [])
  | _, .taken => c.take
  | .connecting, .connected =>
    let (l, events) := c.lifecycle.opened
    .ok (c.goOn l .serving, told events)
  | .connecting, .refused => .ok c.disconnect
  | .serving, .line text => .ok (c.receive text)
  | .serving, .hangUp => .ok c.disconnect
  | .waiting, .timer => .ok (c.goOn c.lifecycle.beginConnect .connecting, [])
  | _, _ => .ok (c, [])

def run (c : Client α) : List Signal → Except ConnectionError (Client α × List Act)
  | [] => .ok (c, [])
  | s :: ss => do
    let (next, acts) ← c.step s
    let (last, more) ← next.run ss
    return (last, acts ++ more)

end Client

end Display3270
