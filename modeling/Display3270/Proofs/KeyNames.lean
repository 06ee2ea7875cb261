import Display3270.Keyboard

namespace Display3270

namespace Modifiers

def shifted : Modifiers := ⟨true, false, false⟩

def alternate : Modifiers := ⟨false, false, true⟩

end Modifiers

namespace KeyPress

def ofName (name : String) : KeyPress :=
  match name.toList with
  | 'S' :: '+' :: key => ⟨String.ofList key, .shifted⟩
  | 'M' :: '+' :: key => ⟨String.ofList key, .alternate⟩
  | _ => plain name

def markedNames : List String := ["S+Tab", "M+r", "M+a", "M+c"]

theorem ofName_shifted (key : String) : ofName ("S+" ++ key) = ⟨key, .shifted⟩ := by
  simp [ofName]

theorem ofName_alternate (key : String) : ofName ("M+" ++ key) = ⟨key, .alternate⟩ := by
  simp [ofName]

theorem keymap_marks : ∀ entry ∈ keymap,
    ¬ "C+".toList <+: entry.1.toList ∧ ¬ "M+S+".toList <+: entry.1.toList := by
  decide

theorem keymap_plain : ∀ entry ∈ keymap,
    ofName entry.1 = plain entry.1 ∨ entry.1 ∈ markedNames := by
  decide

theorem keymap_translated : ∀ entry ∈ keymap, ∀ p ∈ [ofName entry.1, plain entry.1],
    p.translate = some ⟨entry.2, .stopAndPreventDefault⟩ := by
  decide

theorem keymap_actions : ∀ entry ∈ keymap, ∀ other ∈ keymap,
    entry.2 = other.2 → entry.1 = other.1 := by
  decide

theorem mem_keymap_of_lookup {name : String} {action : Action}
    (h : keymap.lookup name = some action) : (name, action) ∈ keymap := by
  obtain ⟨before, after, hsplit, -⟩ := List.lookup_eq_some_iff.mp h
  rw [hsplit]
  exact List.mem_append_right before List.mem_cons_self

theorem eq_of_composite {p : KeyPress} {name : String} (h : p.composite = name)
    (hcontrol : ¬ "C+".toList <+: name.toList) (hboth : ¬ "M+S+".toList <+: name.toList) :
    p = ofName name ∨ p = plain name := by
  obtain ⟨key, shift, ctrl, alt⟩ := p
  subst h
  cases ctrl with
  | true =>
    exfalso
    apply hcontrol
    simp [composite, Modifiers.marks]
  | false =>
    cases alt <;> cases shift
    · right
      simp [composite, Modifiers.marks, plain, Modifiers.none]
    · left
      simp [composite, Modifiers.marks, ofName_shifted, Modifiers.shifted]
    · left
      simp [composite, Modifiers.marks, ofName_alternate, Modifiers.alternate]
    · exfalso
      apply hboth
      simp [composite, Modifiers.marks]

theorem eq_of_lookup_composite {p : KeyPress} {action : Action}
    (h : keymap.lookup p.composite = some action) :
    ∃ name, (name, action) ∈ keymap ∧ (p = ofName name ∨ name ∈ markedNames ∧ p = plain name) := by
  have hmem := mem_keymap_of_lookup h
  obtain ⟨hcontrol, hboth⟩ := keymap_marks _ hmem
  refine ⟨p.composite, hmem, ?_⟩
  rcases eq_of_composite rfl hcontrol hboth with hp | hp
  · exact .inl hp
  · rcases keymap_plain _ hmem with hplain | hmarked
    · exact .inl (hp.trans hplain.symm)
    · exact .inr ⟨hmarked, hp⟩

theorem translate_cases {p : KeyPress} {t : Translation} (h : p.translate = some t) :
    (∃ text, p.printable? = some text ∧ t = ⟨⟨"Key", [text]⟩, .stop⟩) ∨
    (∃ action, keymap.lookup p.composite = some action ∧
      t = ⟨action, .stopAndPreventDefault⟩) ∨
    ∃ n, p.programFunction? = some n ∧
      t = ⟨⟨"PF", [String.ofList (decimal n)]⟩, .stopImmediate⟩ := by
  unfold translate at h
  split at h
  case h_1 text htext =>
    left
    refine ⟨text, ?_, (Option.some.inj h).symm⟩
    split at htext
    · cases htext
    · exact htext
  case h_2 =>
    right
    split at h
    case h_1 action haction =>
      left
      exact ⟨action, haction, (Option.some.inj h).symm⟩
    case h_2 =>
      right
      obtain ⟨n, hn, ht⟩ := Option.map_eq_some_iff.mp h
      exact ⟨n, hn, ht.symm⟩

theorem translate_mapped_iff (p : KeyPress) (action : Action) :
    p.translate = some ⟨action, .stopAndPreventDefault⟩ ↔
      ∃ name, (name, action) ∈ keymap ∧
        (p = ofName name ∨ name ∈ markedNames ∧ p = plain name) := by
  constructor
  · intro h
    rcases translate_cases h with ⟨text, -, ht⟩ | ⟨found, hfound, ht⟩ | ⟨n, -, ht⟩
    · cases ht
    · cases ht
      exact eq_of_lookup_composite hfound
    · cases ht
  · rintro ⟨name, hmem, rfl | ⟨-, rfl⟩⟩
    · exact keymap_translated _ hmem _ (by simp)
    · exact keymap_translated _ hmem _ (by simp)

theorem eq_or_marked {p q : KeyPress} {action : Action}
    (hp : p.translate = some ⟨action, .stopAndPreventDefault⟩) (hq : q.translate = p.translate) :
    p = q ∨ ∃ name ∈ markedNames, (name, action) ∈ keymap ∧
      (p = ofName name ∧ q = plain name ∨ p = plain name ∧ q = ofName name) := by
  obtain ⟨name, hname, hp'⟩ := (translate_mapped_iff p action).mp hp
  obtain ⟨other, hother, hq'⟩ := (translate_mapped_iff q action).mp (hq.trans hp)
  obtain rfl : name = other := keymap_actions _ hname _ hother rfl
  rcases hp' with rfl | ⟨hmarked, rfl⟩ <;> rcases hq' with rfl | ⟨hmarked, rfl⟩
  · exact .inl rfl
  · exact .inr ⟨name, hmarked, hname, .inl ⟨rfl, rfl⟩⟩
  · exact .inr ⟨name, hmarked, hname, .inr ⟨rfl, rfl⟩⟩
  · exact .inl rfl

theorem translate_marked_iff {name : String} {action : Action} (hname : name ∈ markedNames)
    (hmem : (name, action) ∈ keymap) (p : KeyPress) :
    p.translate = some ⟨action, .stopAndPreventDefault⟩ ↔ p = ofName name ∨ p = plain name := by
  rw [translate_mapped_iff]
  constructor
  · rintro ⟨other, hother, hp⟩
    obtain rfl : other = name := keymap_actions _ hother _ hmem rfl
    exact hp.imp_right And.right
  · intro hp
    exact ⟨name, hmem, hp.imp_right fun hplain => ⟨hname, hplain⟩⟩

/-- The key map answers the press that a name is for, and the key whose own text is a marked name,
with nothing held. No two other presses have the same answer of it. -/
theorem translate_mapped (p : KeyPress) :
    (∀ action, p.translate = some ⟨action, .stopAndPreventDefault⟩ ↔
      ∃ name, (name, action) ∈ keymap ∧
        (p = ofName name ∨ name ∈ ["S+Tab", "M+r", "M+a", "M+c"] ∧ p = plain name)) ∧
    (∀ q action, p.translate = some ⟨action, .stopAndPreventDefault⟩ →
      q.translate = p.translate → p = q ∨
        ∃ name ∈ ["S+Tab", "M+r", "M+a", "M+c"], (name, action) ∈ keymap ∧
          (p = ofName name ∧ q = plain name ∨ p = plain name ∧ q = ofName name)) ∧
    (p.translate = some ⟨.plain "Backtab", .stopAndPreventDefault⟩ ↔
      p = ⟨"Tab", .shifted⟩ ∨ p = plain "S+Tab") ∧
    ∀ r ∈ [("Reset", "r"), ("Attn", "a"), ("Reconnect", "c")],
      (p.translate = some ⟨.plain r.1, .stopAndPreventDefault⟩ ↔
        p = ⟨r.2, .alternate⟩ ∨ p = plain ("M+" ++ r.2)) := by
  refine ⟨translate_mapped_iff p, fun q action hp hq => eq_or_marked hp hq, ?_, ?_⟩
  · have htab : ofName "S+Tab" = ⟨"Tab", .shifted⟩ := ofName_shifted "Tab"
    rw [← htab]
    apply translate_marked_iff
    · decide
    · decide
  · intro r hr
    have hentries : ∀ r ∈ [("Reset", "r"), ("Attn", "a"), ("Reconnect", "c")],
        "M+" ++ r.2 ∈ markedNames ∧ ("M+" ++ r.2, Action.plain r.1) ∈ keymap := by
      decide
    obtain ⟨hmarked, hmem⟩ := hentries r hr
    rw [← ofName_alternate]
    exact translate_marked_iff hmarked hmem p

theorem translate_mapped_reset :
    (plain "M+r").translate = some ⟨.plain "Reset", .stopAndPreventDefault⟩ ∧
      ∃ name ∈ ["S+Tab", "M+r", "M+a", "M+c"], (name, .plain "Reset") ∈ keymap ∧
        plain "M+r" = plain name ∧ (⟨"r", .alternate⟩ : KeyPress) = ofName name := by
  have hmem : ("Reset", "r") ∈ [("Reset", "r"), ("Attn", "a"), ("Reconnect", "c")] := by decide
  have hreset := ((translate_mapped (plain "M+r")).2.2.2 _ hmem).mpr (.inr rfl)
  have hheld := ((translate_mapped ⟨"r", .alternate⟩).2.2.2 _ hmem).mpr (.inl rfl)
  have hne : plain "M+r" ≠ ⟨"r", .alternate⟩ := by decide
  have hpair := (translate_mapped (plain "M+r")).2.1 ⟨"r", .alternate⟩ _ hreset
    (hheld.trans hreset.symm)
  refine ⟨hreset, ?_⟩
  rcases hpair with h | ⟨name, hmarked, hname, ⟨-, h⟩ | h⟩
  · exact absurd h hne
  · cases h
  · exact ⟨name, hmarked, hname, h⟩

theorem translate_unheld_reset :
    (plain "M+r").translate = some ⟨.plain "Reset", .stopAndPreventDefault⟩ ∧
      (ofName "M+r").translate = (plain "M+r").translate ∧ ofName "M+r" ≠ plain "M+r" ∧
      (plain "M+r").modifiers.alt = false ∧ ∀ entry ∈ keymap, plain "M+r" ≠ ofName entry.1 := by
  decide

end KeyPress

end Display3270
