import Display3270.Command
import Display3270.Proofs.LogFilters
import Display3270.Proofs.Serving
import Display3270.Proofs.Trace

namespace Display3270

def ReplayEntry.line : ReplayEntry → Nat
  | .skipped line _ | .rejected line _ => line

namespace Replay

theorem run_complete (s : Session) (first : Nat) (lines : List Content) :
    (run s first lines).complete = true ↔ ∀ line ∈ lines, line.text?.isSome = true := by
  induction lines generalizing s first with
  | nil => simp [run]
  | cons line lines ih =>
    rw [List.forall_mem_cons]
    cases htext : line.text? with
    | none => simp [run_unreadable htext]
    | some text =>
      simp only [Option.isSome_some, true_and]
      cases hblank : text.toList.all isBlank with
      | true => rw [run_blank htext hblank, ih]
      | false => rw [run_text htext hblank, ih]

theorem line_of_mem_entries? {line : Nat} {result : Except ProcessError Unit} {entry : ReplayEntry}
    (h : entry ∈ entries? line result) : entry.line = line := by
  unfold entries? at h
  split at h
  · contradiction
  all_goals
    obtain rfl := List.mem_singleton.mp h
    rfl

theorem pairwise_entries? (line : Nat) (result : Except ProcessError Unit) :
    ((entries? line result).map ReplayEntry.line).Pairwise (· < ·) := by
  unfold entries?
  split
  · exact .nil
  all_goals exact List.pairwise_singleton _ _

/-- Whether an entry is about the line at place `k`: it has a text that is not blank, the lines
before it can be read, and it fails in the session that they have led to. -/
def About (s : Session) (first : Nat) (lines : List Content) (entry : ReplayEntry) (k : Nat) :
    Prop :=
  ∃ text, lines[k]?.bind Content.text? = some text ∧ text.toList.all isBlank = false ∧
    (run s first (lines.take k)).complete = true ∧
    entry ∈ entries? (first + k) ((run s first (lines.take k)).session.process text).result

theorem about_succ_iff {s t : Session} {first k : Nat} {line : Content} {lines : List Content}
    {entry : ReplayEntry}
    (h : ∀ rest, (run s first (line :: rest)).session = (run t (first + 1) rest).session ∧
      (run s first (line :: rest)).complete = (run t (first + 1) rest).complete) :
    About s first (line :: lines) entry (k + 1) ↔ About t (first + 1) lines entry k := by
  simp only [About, List.getElem?_cons_succ, List.take_succ_cons, (h _).1, (h _).2, Nat.add_assoc,
    Nat.add_comm 1 k]

theorem about_zero_iff {s : Session} {first : Nat} {line : Content} {lines : List Content}
    {entry : ReplayEntry} {text : String} (h : line.text? = some text) :
    About s first (line :: lines) entry 0 ↔
      text.toList.all isBlank = false ∧ entry ∈ entries? first (s.process text).result := by
  simp [About, h, run]

theorem mem_entries_iff {s : Session} {first : Nat} {lines : List Content} {entry : ReplayEntry} :
    entry ∈ (run s first lines).entries ↔ ∃ k, About s first lines entry k := by
  induction lines generalizing s first with
  | nil => simp [run, About]
  | cons line lines ih =>
    rw [← Nat.or_exists_add_one]
    cases htext : line.text? with
    | none =>
      rw [run_unreadable htext]
      simp [About, htext, run_unreadable htext]
    | some text =>
      rw [about_zero_iff htext]
      cases hblank : text.toList.all isBlank with
      | true =>
        have hsucc : ∀ k, About s first (line :: lines) entry (k + 1) ↔
            About s (first + 1) lines entry k :=
          fun k => about_succ_iff fun rest => by
            rw [run_blank htext hblank]
            exact ⟨rfl, rfl⟩
        simp [run_blank htext hblank, hsucc, ih]
      | false =>
        have hsucc : ∀ k, About s first (line :: lines) entry (k + 1) ↔
            About (s.process text).session (first + 1) lines entry k :=
          fun k => about_succ_iff fun rest => by
            rw [run_text htext hblank]
            exact ⟨rfl, rfl⟩
        simp [run_text htext hblank, hsucc, ih]

theorem entries_ascend (s : Session) (first : Nat) (lines : List Content) :
    (∀ entry ∈ (run s first lines).entries, first ≤ entry.line) ∧
      ((run s first lines).entries.map ReplayEntry.line).Pairwise (· < ·) := by
  induction lines generalizing s first with
  | nil => simp [run]
  | cons line lines ih =>
    cases htext : line.text? with
    | none => simp [run_unreadable htext]
    | some text =>
      cases hblank : text.toList.all isBlank with
      | true =>
        obtain ⟨hfirst, hpair⟩ := ih s (first + 1)
        rw [run_blank htext hblank]
        exact ⟨fun entry h => (Nat.le_succ first).trans (hfirst entry h), hpair⟩
      | false =>
        obtain ⟨hfirst, hpair⟩ := ih (s.process text).session (first + 1)
        have hhere : ∀ entry ∈ entries? first (s.process text).result, entry.line = first :=
          fun entry => line_of_mem_entries?
        rw [run_text htext hblank, List.map_append, List.pairwise_append]
        refine ⟨?_, pairwise_entries? first _, hpair, ?_⟩
        · intro entry h
          rcases List.mem_append.mp h with h | h
          · exact (hhere entry h).ge
          · exact (Nat.le_succ first).trans (hfirst entry h)
        · simp only [List.forall_mem_map]
          intro entry h later hlater
          rw [hhere entry h]
          exact hfirst later hlater

end Replay

namespace Config

theorem letThrough_level {c : Config} {word : String} {limit : Nat}
    (hword : c.logFilter.getD "warn" = word)
    (h : ∀ d ∈ word.toList, DirectiveText.mayStart d = true)
    (hlimit : LogLevel.limit? word.toList = some limit) (entries : List LogEntry) :
    c.letThrough entries = entries.filter fun e => e.origin.level.rank ≤ limit := by
  simp only [letThrough, filter, hword, LogFilter.lets_level h hlimit]

theorem letThrough_replay {c : Config} (h : c.logFilter = none) (entries : List ReplayEntry) :
    c.letThrough (entries.map .replay) = entries.map .replay := by
  have hword : c.logFilter.getD "warn" = "warn" := by
    rw [h]
    rfl
  have halphanum : "warn".toList.all Char.isAlphanum = true := by decide
  have hlimit : LogLevel.limit? "warn".toList = some 2 := by decide
  rw [letThrough_level hword
    (fun d hd => DirectiveText.mayStart_of_isAlphanum (List.all_eq_true.mp halphanum d hd)) hlimit,
    List.filter_eq_self]
  intro entry hentry
  obtain ⟨e, -, rfl⟩ := List.mem_map.mp hentry
  cases e <;> rfl

end Config

section

variable (source : ConfigSource) (trace : Option Content) (asJson : Bool)

theorem replayCommand_cases :
    ((∃ e, source.load = .error e) ∨ trace = none) ∧
        (∃ e, replayCommand source trace asJson = .failed e) ∨
      ∃ config content, source.load = .ok config ∧ trace = some content ∧
        let replay := Replay.ofTrace config.screen.session content
        let log := config.letThrough (replay.entries.map .replay)
        let snapshot := replay.session.snapshot
        replayCommand source trace asJson =
          if replay.complete then
            ⟨if asJson then snapshot.text ++ "\n" else snapshot.plain, log, none⟩
          else ⟨"", log, some .noText⟩ := by
  cases hload : source.load with
  | error e => exact .inl ⟨.inl ⟨e, rfl⟩, .config e, by simp only [replayCommand, hload]⟩
  | ok config =>
    cases trace with
    | none => exact .inl ⟨.inr rfl, .noFile, by simp only [replayCommand, hload]⟩
    | some content => exact .inr ⟨config, content, rfl, rfl, by simp only [replayCommand, hload]⟩

variable {source} {trace} {asJson}

theorem replayCommand_error (h : (replayCommand source trace asJson).error ≠ none) :
    (replayCommand source trace asJson).stdout = "" := by
  rcases replayCommand_cases source trace asJson with
    ⟨-, e, hfailed⟩ | ⟨config, content, -, -, hresult⟩
  · rw [hfailed]
    rfl
  · rw [hresult] at h ⊢
    split
    case isTrue hcomplete => simp [hcomplete] at h
    case isFalse => rfl

theorem replayCommand_exitCode :
    (replayCommand source trace asJson).exitCode = 0 ↔
      (∃ config, source.load = .ok config) ∧
        ∃ content, trace = some content ∧ ∀ line ∈ content.lines, line.text?.isSome = true := by
  rcases replayCommand_cases source trace asJson with
    ⟨hwhy, e, hfailed⟩ | ⟨config, content, hload, rfl, hresult⟩
  · rw [hfailed]
    rcases hwhy with ⟨e, hload⟩ | rfl
    · simp [CommandResult.failed, CommandResult.exitCode, hload]
    · simp [CommandResult.failed, CommandResult.exitCode]
  · have hcomplete : (Replay.ofTrace config.screen.session content).complete = true ↔
        ∀ line ∈ content.lines, line.text?.isSome = true :=
      Replay.run_complete config.screen.session 1 content.lines
    rw [hresult]
    simp only [hload, Except.ok.injEq, exists_eq', true_and, Option.some.injEq, exists_eq_left',
      ← hcomplete]
    split
    case isTrue h => simp [CommandResult.exitCode, h]
    case isFalse h => simp [CommandResult.exitCode, h]

end

/-- What a connection has recorded is replayed to the snapshot that its own session has. -/
theorem replayCommand_recordAll {α : Type} {source : ConfigSource} {config : Config}
    (hsource : source.load = .ok config) {l : Lifecycle α}
    (hsession : l.session = config.screen.session) {messages : List String}
    (hlines : ∀ m ∈ messages, '\n' ∉ m.toList) (asJson : Bool) :
    let bytes := (TraceLog.empty.recordAll messages).text.toUTF8.data.toList
    let result := replayCommand source (some (Content.ofBytes bytes)) asJson
    let snapshot := (l.receiveAll messages).session.snapshot
    result.error = none ∧
      result.stdout = if asJson then snapshot.text ++ "\n" else snapshot.plain := by
  intro bytes result snapshot
  have hreplay := Replay.run_lines l 1 messages
  rw [hsession] at hreplay
  have hread : Replay.ofTrace config.screen.session (Content.ofBytes bytes) =
      Replay.run config.screen.session 1
        (messages.map fun m => Content.dropReturn (Content.ofString m)) := by
    rw [Content.ofBytes_toUTF8, Replay.ofTrace, TraceLog.lines_recordAll hlines]
  simp only [result, replayCommand, hsource, hread, hreplay.1, hreplay.2, if_true, true_and]
  rfl

def UserInput.dropped? : UserInput → Option LogEntry
  | .key press => some (.keyDropped press)
  | .actions _ => none

theorem typedKeys_eq {lines : List Content} {texts : List String}
    (h : lines.map Content.text? = texts.map some) :
    typedKeys lines = (texts.flatMap typeLine, true) := by
  induction lines generalizing texts with
  | nil =>
    obtain rfl := List.map_eq_nil_iff.mp h.symm
    rfl
  | cons line lines ih =>
    cases texts with
    | nil => contradiction
    | cons text texts =>
      obtain ⟨htext, hrest⟩ := List.cons_eq_cons.mp h
      simp only [typedKeys, htext, ih hrest, List.flatMap_cons]

def Move.entry? {α : Type} (m : Move α) : Option LogEntry :=
  if m.signal matches .refused then some .attemptFailed
  else if m.before.phase = .waiting then m.taken?.bind UserInput.dropped? else none

namespace Client

variable {α : Type}

theorem InPhase.told_shutdown {c : Client α} (hc : c.InPhase) (h : c.phase ≠ .serving) :
    told c.lifecycle.shutdown.2 = [] := by
  have hdetached : c.lifecycle.attached = false := by simp [hc.attached, h]
  simp [Lifecycle.shutdown, hdetached, told]

variable [LT α] [DecidableLT α] [Mul α]

theorem Steps.of_waiting {c next : Client α} {s : Signal} {acts : List Act}
    (h : Steps c s next acts) (hc : c.InPhase) (hwaiting : c.phase = .waiting)
    (htimer : s ≠ .timer) :
    (next.phase = .waiting ∨ next.phase = .stopped) ∧ acts = [] ∧
      Move.entry? ⟨c, s, acts, next⟩ =
        (Move.taken? ⟨c, s, acts, next⟩).bind UserInput.dropped? := by
  have hsilent := hc.told_shutdown (by rw [hwaiting]; nofun)
  cases h with
  | accept h | refuse h | apply h | desync h | hangUp h | send h => simp [hwaiting] at h
  | retry => exact absurd rfl htimer
  | arrive => exact ⟨.inl hwaiting, rfl, by simp [Move.entry?, hwaiting]⟩
  | close => exact ⟨.inl hwaiting, rfl, by simp [Move.entry?, hwaiting]⟩
  | drop => exact ⟨.inl hwaiting, rfl, by simp [Move.entry?, hwaiting]⟩
  | stop => exact ⟨.inr rfl, hsilent, by simp [Move.entry?, hwaiting]⟩

theorem Steps.of_connecting {c next : Client α} {s : Signal} {acts : List Act}
    (h : Steps c s next acts) (hc : c.InPhase) (hconnecting : c.phase = .connecting)
    (hrefused : s ≠ .connected) :
    acts = [] ∧ Move.taken? ⟨c, s, acts, next⟩ = none ∧
      (next.phase = .connecting ∧ Move.entry? ⟨c, s, acts, next⟩ = none ∨
        next.phase = .waiting ∧ Move.entry? ⟨c, s, acts, next⟩ = some .attemptFailed) := by
  have hsilent := hc.told_shutdown (by rw [hconnecting]; nofun)
  cases h with
  | apply h | desync h | hangUp h | send h | drop h | stop h | retry h =>
    simp [hconnecting] at h
  | accept => exact absurd rfl hrefused
  | arrive => exact ⟨rfl, rfl, .inl ⟨hconnecting, by simp [Move.entry?, hconnecting]⟩⟩
  | close => exact ⟨rfl, rfl, .inl ⟨hconnecting, by simp [Move.entry?, hconnecting]⟩⟩
  | refuse => exact ⟨hsilent, rfl, .inr ⟨rfl, rfl⟩⟩

variable [LE α] [DecidableLE α] [OfNat α 0] [OfNat α 1]

theorem Moves.of_waiting {c last : Client α} {ms : List (Move α)} (h : Moves c ms last)
    (hc : c.InPhase) (hwaiting : c.phase = .waiting) (htimer : .timer ∉ ms.map Move.signal) :
    ms.flatMap Move.acts = [] ∧
      ms.filterMap Move.entry? = (ms.filterMap Move.taken?).filterMap UserInput.dropped? := by
  induction h with
  | nil c => exact ⟨rfl, rfl⟩
  | @cons c next last s acts ms awaited step rest ih =>
    have hstep := steps_of_step hc awaited step
    obtain ⟨hs, hrest⟩ := not_or.mp (mt List.mem_cons.mpr htimer)
    obtain ⟨hnext, hsilent, hentry⟩ := hstep.of_waiting hc hwaiting (Ne.symm hs)
    have htail : ms.flatMap Move.acts = [] ∧
        ms.filterMap Move.entry? = (ms.filterMap Move.taken?).filterMap UserInput.dropped? := by
      rcases hnext with hnext | hnext
      · exact ih (hstep.inPhase hc) hnext hrest
      · rw [rest.of_stopped hnext]
        exact ⟨rfl, rfl⟩
    obtain ⟨hacts, hentries⟩ := htail
    constructor
    · rw [List.flatMap_cons, hsilent, hacts]
      rfl
    · rw [filterMap_toList_cons, hentry, hentries, filterMap_toList_cons, List.filterMap_append]
      cases Move.taken? ⟨c, s, acts, next⟩ with
      | none => rfl
      | some i => cases hi : i.dropped? <;> simp [hi]

theorem Moves.of_connecting {c last : Client α} {ms : List (Move α)} (h : Moves c ms last)
    (hc : c.InPhase) (hconnecting : c.phase = .connecting)
    (hrefused : .connected ∉ ms.map Move.signal) (htimer : .timer ∉ ms.map Move.signal) :
    ms.flatMap Move.acts = [] ∧ (last.phase = .stopped → ms.filterMap Move.entry? =
      .attemptFailed :: (ms.filterMap Move.taken?).filterMap UserInput.dropped?) := by
  induction h with
  | nil c => exact ⟨rfl, fun hstopped => nomatch hconnecting.symm.trans hstopped⟩
  | @cons c next last s acts ms awaited step rest ih =>
    have hstep := steps_of_step hc awaited step
    obtain ⟨hs, hrefused⟩ := not_or.mp (mt List.mem_cons.mpr hrefused)
    obtain ⟨-, htimer⟩ := not_or.mp (mt List.mem_cons.mpr htimer)
    obtain ⟨hsilent, htaken, ⟨hnext, hentry⟩ | ⟨hnext, hentry⟩⟩ :=
      hstep.of_connecting hc hconnecting (Ne.symm hs)
    · obtain ⟨hacts, hentries⟩ := ih (hstep.inPhase hc) hnext hrefused htimer
      refine ⟨by rw [List.flatMap_cons, hsilent, hacts]; rfl, fun hstopped => ?_⟩
      rw [filterMap_toList_cons, hentry, filterMap_toList_cons, htaken]
      exact hentries hstopped
    · obtain ⟨hacts, hentries⟩ := rest.of_waiting (hstep.inPhase hc) hnext htimer
      refine ⟨by rw [List.flatMap_cons, hsilent, hacts]; rfl, fun _ => ?_⟩
      rw [filterMap_toList_cons, hentry, filterMap_toList_cons, htaken, hentries]
      rfl

def typing (presses : List KeyPress) : List Signal :=
  presses.flatMap (fun press => [.input (.key press), .taken]) ++ [.inputClosed, .taken]

theorem exists_moves_typing (l : Lifecycle α) (presses : List KeyPress) :
    ∃ ms last, Moves ⟨l, .waiting, [], false⟩ ms last ∧ last.phase = .stopped ∧
      ms.map Move.signal = typing presses := by
  induction presses with
  | nil => exact ⟨_, _, .cons rfl rfl (.cons rfl rfl (.nil _)), rfl, rfl⟩
  | cons press presses ih =>
    obtain ⟨ms, last, hmoves, hstopped, hsignals⟩ := ih
    refine ⟨_, last, .cons (s := .input (.key press)) rfl rfl (.cons (s := .taken) rfl rfl hmoves),
      hstopped, ?_⟩
    simp [typing, hsignals]

theorem exists_moves_refused (l : Lifecycle α) (presses : List KeyPress) :
    ∃ ms last, Moves (start l) ms last ∧ last.phase = .stopped ∧
      ms.map Move.signal = .refused :: typing presses := by
  obtain ⟨ms, last, hmoves, hstopped, hsignals⟩ :=
    exists_moves_typing l.beginConnect.shutdown.1 presses
  exact ⟨_, last, .cons (s := .refused) rfl rfl hmoves, hstopped, by simp [hsignals]⟩

end Client

/-- The command for a host that does not answer says what any such run of a client does whose
input is what is typed: one attempt has failed and all keys are dropped. -/
theorem connectCommand_moves {source : ConfigSource} {config : Config} {opens : String → Bool}
    {stdin : Content} (hsource : source.load = .ok config)
    (hopens : ∀ path ∈ config.traceFile, opens path = true) {presses : List KeyPress}
    (hkeys : typedKeys stdin.lines = (presses, true)) {ms : List (Move Double)}
    {last : Client Double}
    (h : Client.Moves (.start (.create config.screen.session config.reconnect.backoff)) ms last)
    (hrefused : .connected ∉ ms.map Move.signal) (htimer : .timer ∉ ms.map Move.signal)
    (hinput : (ms.map Move.signal).filterMap Signal.input? = presses.map .key)
    (hstopped : last.phase = .stopped) :
    connectCommand source opens stdin =
        ⟨"", config.letThrough (ms.filterMap Move.entry?), none⟩ ∧
      ms.flatMap Move.acts = [] := by
  have hstart : (Client.start (.create config.screen.session config.reconnect.backoff)).InPhase :=
    Client.inPhase_start rfl
  obtain ⟨hacts, hentries⟩ := h.of_connecting hstart rfl hrefused htimer
  refine ⟨?_, hacts⟩
  -- a client stops with an empty channel, so it has taken all that has arrived
  have htaken : ms.filterMap Move.taken? = presses.map .key := by
    have hqueue := h.queue hstart
    rw [((h.sound hstart).1.drained hstopped).2, List.append_nil, hinput] at hqueue
    exact hqueue.symm
  have hdropped : (presses.map UserInput.key).filterMap UserInput.dropped? =
      presses.map .keyDropped := by
    have hkey : UserInput.dropped? ∘ UserInput.key = some ∘ LogEntry.keyDropped := rfl
    rw [List.filterMap_map, hkey, List.filterMap_eq_map]
  have hallowed : (config.traceFile.map opens).getD true = true := by
    cases hpath : config.traceFile with
    | none => rfl
    | some path => exact hopens path hpath
  rw [hentries hstopped, htaken, hdropped]
  simp only [connectCommand, hsource, hallowed, hkeys, if_true, List.append_nil]

end Display3270
