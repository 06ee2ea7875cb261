import Display3270.Backoff
import Display3270.Keyboard
import Display3270.Session

namespace Display3270

inductive LinkState
  | connecting
  | opened
  | closed
  deriving DecidableEq

structure Lifecycle (α : Type) where
  link : LinkState
  backoff : Backoff α
  session : Session
  attached : Bool
  deriving DecidableEq

inductive UserInput
  | key (press : KeyPress)
  | actions (actions : List Action)
  deriving DecidableEq

inductive ConnectionError
  | notOpen
  deriving DecidableEq

def ConnectionError.message : ConnectionError → String
  | .notOpen => "connection is not open"

def UserInput.actions? : UserInput → Option (List Action)
  | .key press => press.translate.map fun t => [t.action]
  | .actions [] => none
  | .actions (a :: as) => some (a :: as)

namespace Lifecycle

variable {α : Type}

def create (session : Session) (backoff : Backoff α) : Lifecycle α :=
  ⟨.closed, backoff, session, false⟩

def beginConnect [LT α] [DecidableLT α] [Mul α] (l : Lifecycle α) : Lifecycle α :=
  ⟨.connecting, l.backoff.grow, l.session, l.attached⟩

def opened (l : Lifecycle α) : Lifecycle α × List Event :=
  (⟨.opened, l.backoff.reset, l.session, true⟩, if l.attached then [] else [.attach])

def shutdown (l : Lifecycle α) : Lifecycle α × List Event :=
  (⟨.closed, l.backoff, l.session, false⟩, if l.attached then [.detach] else [])

def closed [LE α] [DecidableLE α] [OfNat α 0] [OfNat α 1] (l : Lifecycle α) :
    Lifecycle α × List Event × α :=
  (l.shutdown.1, l.shutdown.2, l.backoff.delay)

/-- Takes a message of the host. One that cannot be decoded is dropped; one that cannot be applied
is an error, and the host has to send all of its state again. -/
def receive (l : Lifecycle α) (text : String) :
    Lifecycle α × List Event × Except DispatchError Unit :=
  match Indication.decode text with
  | .error _ => (l, [], .ok ())
  | .ok i =>
    let done := l.session.dispatch i
    (⟨l.link, l.backoff, done.session, l.attached⟩, done.events, done.result)

def outbound (l : Lifecycle α) (input : UserInput) : Except ConnectionError (Option String) :=
  if l.link = .opened then
    .ok (input.actions?.map fun actions => (Operation.ofActions actions).encode)
  else .error .notOpen

end Lifecycle

end Display3270
