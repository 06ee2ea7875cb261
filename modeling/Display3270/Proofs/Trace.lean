import Display3270.Replay
import Display3270.TraceLog
import Display3270.Proofs.Calls
import Display3270.Proofs.Indication.Decoding
import Display3270.Proofs.Lines
import Display3270.Proofs.Utf8

namespace Display3270

namespace Session

theorem process_undecoded {s : Session} {text : String}
    (h : ∀ i, Indication.decode text ≠ .ok i) : (s.process text).session = s := by
  unfold process
  cases hd : Indication.decode text with
  | error e => rfl
  | ok i => exact absurd hd (h i)

theorem process_session_congr {a b : String}
    (h : ∀ i, Indication.decode a = .ok i ↔ Indication.decode b = .ok i) (s : Session) :
    (s.process a).session = (s.process b).session := by
  cases ha : Indication.decode a with
  | ok i => simp only [process, ha, (h i).mp ha]
  | error e =>
    have hnone : ∀ i, Indication.decode a ≠ .ok i := by simp [ha]
    have hb : ∀ i, Indication.decode b ≠ .ok i := fun i hi => hnone i ((h i).mpr hi)
    rw [process_undecoded hnone, process_undecoded hb]

end Session

namespace TraceLog

theorem recordAll_toList (messages : List String) (t : TraceLog) :
    (t.recordAll messages).text.toList =
      t.text.toList ++ messages.flatMap fun m => m.toList ++ ['\n'] := by
  induction messages generalizing t with
  | nil => simp [recordAll]
  | cons m messages ih =>
    have hstep : t.recordAll (m :: messages) = (t.record m).recordAll messages := rfl
    rw [hstep, ih]
    simp [record]

theorem lines_recordAll {messages : List String} (h : ∀ m ∈ messages, '\n' ∉ m.toList) :
    (Content.ofString (empty.recordAll messages).text).lines =
      messages.map fun m => Content.dropReturn (Content.ofString m) := by
  rw [Content.ofString, recordAll_toList]
  exact Content.lines_flatMap h

end TraceLog

namespace Lifecycle

variable {α : Type}

def receiveAll (l : Lifecycle α) (messages : List String) : Lifecycle α :=
  messages.foldl (fun l m => (l.receive m).1) l

end Lifecycle

namespace Replay

section

variable {s : Session} {first : Nat} {line : Content} {lines : List Content}

theorem run_unreadable (h : line.text? = none) : run s first (line :: lines) = ⟨s, [], false⟩ := by
  simp only [run, h]

theorem run_blank {text : String} (h : line.text? = some text)
    (hblank : text.toList.all isBlank = true) :
    run s first (line :: lines) = run s (first + 1) lines := by
  simp only [run, h, hblank, if_true]

theorem run_text {text : String} (h : line.text? = some text)
    (hblank : text.toList.all isBlank = false) :
    let done := s.process text
    let next := run done.session (first + 1) lines
    run s first (line :: lines) =
      ⟨next.session, entries? first done.result ++ next.entries, next.complete⟩ := by
  simp only [run, h, hblank, Bool.false_eq_true, if_false]

end

theorem run_lines {α : Type} (l : Lifecycle α) (first : Nat) (messages : List String) :
    let replay := run l.session first
      (messages.map fun m => Content.dropReturn (Content.ofString m))
    replay.complete = true ∧ replay.session = (l.receiveAll messages).session := by
  induction messages generalizing l first with
  | nil => exact ⟨rfl, rfl⟩
  | cons m messages ih =>
    obtain ⟨text, htext, hm⟩ := Content.text?_dropReturn m
    have hdecode : ∀ i, Indication.decode m = .ok i ↔ Indication.decode text = .ok i := by
      rcases hm with rfl | rfl
      · exact fun _ => Iff.rfl
      · exact Indication.decode_push_return text
    have hsession : (l.receive m).1.session = (l.session.process text).session := by
      rw [(l.receive_process m).1, Session.process_session_congr hdecode]
    rw [List.map_cons]
    have hrest := ih (l.receive m).1 (first + 1)
    rw [hsession] at hrest
    cases hblank : text.toList.all isBlank with
    | true =>
      have hsame : (l.session.process text).session = l.session :=
        Session.process_undecoded (Indication.decode_blank hblank)
      rw [hsame] at hrest
      rw [run_blank htext hblank]
      exact hrest
    | false =>
      rw [run_text htext hblank]
      exact hrest

/-- The file of a trace leads to the session that its messages have led to, whichever of them are
blank, are no indications, cannot be applied or fail half way. -/
theorem ofTrace_recordAll {α : Type} (l : Lifecycle α) (messages : List String)
    (h : ∀ m ∈ messages, '\n' ∉ m.toList) :
    let bytes := (TraceLog.empty.recordAll messages).text.toUTF8.data.toList
    let replay := ofTrace l.session (Content.ofBytes bytes)
    replay.complete = true ∧ replay.session = (l.receiveAll messages).session := by
  simp only [Content.ofBytes_toUTF8, ofTrace, TraceLog.lines_recordAll h]
  exact run_lines l 1 messages

theorem ofTrace_recordAll_four :
    let l : Lifecycle Double := .create default .initial
    let messages := ["\x7b\"oia\":\x7b\"field\":\"lock\"\x7d\x7d\r", " \t", "\x7b\"erase\":", "é"]
    let bytes := (TraceLog.empty.recordAll messages).text.toUTF8.data.toList
    let replay := ofTrace l.session (Content.ofBytes bytes)
    (∀ m ∈ messages, '\n' ∉ m.toList) ∧
      replay.complete = true ∧ replay.session = (l.receiveAll messages).session :=
  ⟨by decide, ofTrace_recordAll _ _ (by decide)⟩

end Replay

end Display3270
