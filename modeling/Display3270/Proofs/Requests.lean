import Display3270.Proofs.Calls
import Display3270.Proofs.Operations

namespace Display3270

inductive UserInput.Requests : UserInput → List Action → Prop
  | actions {actions : List Action} (h : actions ≠ []) : Requests (.actions actions) actions
  | key {press : KeyPress} {t : Translation} (h : press.translate = some t) :
    Requests (.key press) [t.action]

namespace UserInput

theorem actions?_eq_some_iff (input : UserInput) (actions : List Action) :
    input.actions? = some actions ↔ input.Requests actions := by
  constructor
  · intro h
    cases input with
    | key press =>
      obtain ⟨t, ht, rfl⟩ := Option.map_eq_some_iff.mp h
      exact .key ht
    | actions given =>
      cases given with
      | nil => cases h
      | cons a as =>
        cases h
        exact .actions (List.cons_ne_nil a as)
  · rintro (⟨h⟩ | ⟨h⟩)
    · cases actions with
      | nil => exact absurd rfl h
      | cons a as => rfl
    · simp only [actions?, h, Option.map_some]

theorem actions?_eq_none_iff (input : UserInput) :
    input.actions? = none ↔
      input = .actions [] ∨ ∃ press, input = .key press ∧ press.translate = none := by
  cases input with
  | key press => simp [actions?]
  | actions given => cases given <;> simp [actions?]

end UserInput

namespace Lifecycle

variable {α : Type}

theorem outbound_of_opened {l : Lifecycle α} (h : l.link = .opened) (input : UserInput) :
    l.outbound input =
      .ok (input.actions?.map fun actions => (Operation.ofActions actions).encode) :=
  if_pos h

theorem outbound_of_not_opened {l : Lifecycle α} (h : l.link ≠ .opened) (input : UserInput) :
    l.outbound input = .error .notOpen :=
  if_neg h

theorem outbound_requested {l : Lifecycle α} (h : l.link = .opened) {input : UserInput}
    {actions : List Action} (ha : input.Requests actions) :
    ∃ text, l.outbound input = .ok (some text) ∧
      Operation.decode text = .ok (.run ⟨none, none, actions⟩) := by
  have hactions := (input.actions?_eq_some_iff actions).mpr ha
  refine ⟨(Operation.ofActions actions).encode, ?_, ?_⟩
  · rw [outbound_of_opened h, hactions, Option.map_some]
  · exact Operation.decode_of_encode (.ofActions actions)

variable [LE α] [LT α] [DecidableLE α] [DecidableLT α] [Mul α] [OfNat α 0] [OfNat α 1]

theorem run_outbound (l : Lifecycle α) (inputs : List UserInput) :
    l.run (inputs.map .outbound) =
      ⟨l, [], inputs.map fun input => .outbound (l.outbound input)⟩ := by
  induction inputs with
  | nil => rfl
  | cons input inputs ih =>
    have hcall : l.call (.outbound input) = (l, [], .outbound (l.outbound input)) := rfl
    rw [List.map_cons, run_cons, hcall, ih]
    rfl

/-- What a user sends is refused exactly if the link is not open, and there is no other error. Over
an open link there is nothing to send for an input that does nothing; for any other the text is read
back as a run of just its actions, without a tag. The lifecycle stays as it is. -/
theorem outbound_sends (l : Lifecycle α) (input : UserInput) :
    (∀ e, l.outbound input = .error e ↔ l.link ≠ .opened ∧ e = .notOpen) ∧
      (l.outbound input = .ok none ↔ l.link = .opened ∧
        (input = .actions [] ∨ ∃ press, input = .key press ∧ press.translate = none)) ∧
      (∀ actions, l.link = .opened → input.Requests actions →
        ∃ text, l.outbound input = .ok (some text) ∧
          Operation.decode text = .ok (.run ⟨none, none, actions⟩)) ∧
      ∀ inputs : List UserInput, l.run (inputs.map .outbound) =
        ⟨l, [], inputs.map fun input => .outbound (l.outbound input)⟩ := by
  refine ⟨?_, ?_, fun actions h ha => outbound_requested h ha, l.run_outbound⟩
  · intro e
    by_cases h : l.link = .opened
    · rw [outbound_of_opened h]
      simp [h]
    · rw [outbound_of_not_opened h]
      simp [h]
  · by_cases h : l.link = .opened
    · rw [outbound_of_opened h, ← input.actions?_eq_none_iff]
      simp [h]
    · rw [outbound_of_not_opened h]
      simp [h]

theorem outbound_sends_shifted :
    let l : Lifecycle Double := (create default .initial).opened.1
    let input : UserInput := .key ⟨"F007", ⟨true, true, false⟩⟩
    l.link = .opened ∧ input.Requests [⟨"PF", ["20"]⟩] ∧
      ∃ text, l.outbound input = .ok (some text) ∧
        Operation.decode text = .ok (.run ⟨none, none, [⟨"PF", ["20"]⟩]⟩) := by
  intro l input
  have hopened : l.link = .opened := rfl
  have hrequests : input.Requests [⟨"PF", ["20"]⟩] := by
    have htranslate : (⟨"F007", ⟨true, true, false⟩⟩ : KeyPress).translate =
        some ⟨⟨"PF", ["20"]⟩, .stopImmediate⟩ := by decide +kernel
    exact .key htranslate
  exact ⟨hopened, hrequests, (outbound_sends l input).2.2.1 _ hopened hrequests⟩

end Lifecycle

end Display3270
