import Display3270.Proofs.KeyNames

namespace Display3270

theorem breakClass_of_isDigit {c : Char} (h : c.isDigit = true) : breakClass c = .other := by
  have hdigits : ∀ n ≤ '9'.toNat, '0'.toNat ≤ n → breakClass (Char.ofNat n) = .other := by
    decide
  obtain ⟨hlow, hhigh⟩ := Char.isDigit_iff_toNat.mp h
  rw [← Char.ofNat_toNat c]
  exact hdigits c.toNat hhigh hlow

theorem clustersFrom_ne_nil (s : ClusterState) (cluster cs : List Char) :
    clustersFrom s cluster cs ≠ [] := by
  induction cs generalizing s cluster with
  | nil => exact List.cons_ne_nil _ _
  | cons c cs ih =>
    rw [clustersFrom]
    split
    · exact ih _ _
    · exact List.cons_ne_nil _ _

namespace KeyPress

def IsFunctionKey (key : String) (n : Nat) : Prop :=
  ∃ digits : List Char, digits ≠ [] ∧ (∀ c ∈ digits, c.isDigit = true) ∧
    key.toList = 'F' :: digits ∧ Nat.ofDigitChars 10 digits 0 = n

def InRange (m : Modifiers) (n : Nat) : Prop :=
  n < Nat.pow 2 32 ∧ (m.shift = true → n + 13 < Nat.pow 2 32)

theorem IsFunctionKey.unique {key : String} {n m : Nat} (h : IsFunctionKey key n)
    (h' : IsFunctionKey key m) : n = m := by
  obtain ⟨digits, -, -, hkey, rfl⟩ := h
  obtain ⟨digits', -, -, hkey', rfl⟩ := h'
  obtain rfl : digits = digits' := List.tail_eq_of_cons_eq (hkey.symm.trans hkey')
  rfl

theorem IsFunctionKey.printable?_eq {p : KeyPress} {n : Nat} (h : IsFunctionKey p.key n) :
    p.printable? = none := by
  obtain ⟨digits, hne, hdigits, hkey, -⟩ := h
  obtain ⟨d, ds, rfl⟩ := List.exists_cons_of_ne_nil hne
  have hclass := breakClass_of_isDigit (hdigits d List.mem_cons_self)
  -- the first digit is in a cluster of its own, so the key is not one cluster
  have hsplit : (ClusterState.first (breakClass 'F')).joins .other = false := by decide
  obtain ⟨cluster, rest, hrest⟩ :=
    List.exists_cons_of_ne_nil (clustersFrom_ne_nil (.first .other) [d] ds)
  simp [printable?, hkey, clusters, clustersFrom, hclass, hsplit, hrest]

theorem IsFunctionKey.lookup_eq {p : KeyPress} {n : Nat} (h : IsFunctionKey p.key n) :
    keymap.lookup p.composite = none := by
  obtain ⟨digits, -, -, hkey, -⟩ := h
  have hnames : ∀ entry ∈ keymap, ∀ q ∈ [ofName entry.1, plain entry.1],
      q.key.toList.head? ≠ some 'F' := by
    decide
  cases hlookup : keymap.lookup p.composite with
  | none => rfl
  | some action =>
    exfalso
    obtain ⟨name, hmem, hp⟩ := eq_of_lookup_composite hlookup
    apply hnames _ hmem p
    · rcases hp with rfl | ⟨-, rfl⟩ <;> simp
    · rw [hkey, List.head?_cons]

theorem IsFunctionKey.translate_eq {p : KeyPress} {n : Nat} (h : IsFunctionKey p.key n) :
    p.translate = p.programFunction?.map fun n =>
      ⟨⟨"PF", [String.ofList (decimal n)]⟩, .stopImmediate⟩ := by
  simp only [translate, h.printable?_eq, h.lookup_eq, ite_self]

theorem small?_eq_some_iff (n m : Nat) : small? n = some m ↔ n < Nat.pow 2 32 ∧ n = m := by
  rw [small?, Option.ite_none_right_eq_some, Option.some.injEq]

theorem functionKey?_eq_some_iff (p : KeyPress) (n : Nat) :
    p.functionKey? = some n ↔ IsFunctionKey p.key n ∧ n < Nat.pow 2 32 := by
  unfold functionKey?
  split
  case h_1 d ds hkey =>
    rw [Option.ite_none_right_eq_some, small?_eq_some_iff, List.all_eq_true]
    constructor
    · rintro ⟨hdigits, hlt, rfl⟩
      exact ⟨⟨d :: ds, List.cons_ne_nil _ _, hdigits, hkey, rfl⟩, hlt⟩
    · rintro ⟨⟨digits, -, hdigits, hkey', rfl⟩, hlt⟩
      obtain rfl : d :: ds = digits := List.tail_eq_of_cons_eq (hkey.symm.trans hkey')
      exact ⟨hdigits, hlt, rfl⟩
  case h_2 hkey =>
    simp only [reduceCtorEq, false_iff]
    rintro ⟨⟨digits, hne, -, hkey', -⟩, -⟩
    obtain ⟨d, ds, rfl⟩ := List.exists_cons_of_ne_nil hne
    exact hkey d ds hkey'

theorem programFunction?_eq_some_iff (p : KeyPress) (m : Nat) :
    p.programFunction? = some m ↔ ∃ n, IsFunctionKey p.key n ∧ InRange p.modifiers n ∧
      m = if p.modifiers.shift then n + 13 else n := by
  unfold programFunction?
  simp only [Option.bind_eq_some_iff, functionKey?_eq_some_iff, InRange, and_assoc]
  apply exists_congr
  intro n
  cases p.modifiers.shift with
  | false => simp [eq_comm]
  | true => simp only [if_true, shiftOffset, small?_eq_some_iff, forall_const, eq_comm (a := m)]

/-- A program function is called by just the keys of an `F` and a number, whatever control and alt
are. A number that is too great does nothing. -/
theorem translate_functionKey (p : KeyPress) :
    (∀ t, (p.translate = some t ∧ t.action.action = "PF") ↔
      ∃ n, IsFunctionKey p.key n ∧ InRange p.modifiers n ∧
        t = ⟨⟨"PF", [(if p.modifiers.shift then n + 13 else n).repr]⟩, .stopImmediate⟩) ∧
    ∀ n, IsFunctionKey p.key n → ¬ InRange p.modifiers n → p.translate = none := by
  refine ⟨fun t => ⟨?_, ?_⟩, ?_⟩
  · rintro ⟨ht, hpf⟩
    rcases translate_cases ht with ⟨text, -, rfl⟩ | ⟨action, haction, rfl⟩ | ⟨m, hm, rfl⟩
    · have hword : "Key" ≠ "PF" := by decide
      exact absurd hpf hword
    · have hactions : ∀ entry ∈ keymap, entry.2.action ≠ "PF" := by decide
      exact absurd hpf (hactions _ (mem_keymap_of_lookup haction))
    · obtain ⟨n, hkey, hrange, rfl⟩ := (programFunction?_eq_some_iff p m).mp hm
      exact ⟨n, hkey, hrange, rfl⟩
  · rintro ⟨n, hkey, hrange, rfl⟩
    have hcalled := (programFunction?_eq_some_iff p _).mpr ⟨n, hkey, hrange, rfl⟩
    refine ⟨?_, rfl⟩
    rw [hkey.translate_eq, hcalled]
    rfl
  · intro n hkey hrange
    rw [hkey.translate_eq, Option.map_eq_none_iff, Option.eq_none_iff_forall_ne_some]
    intro m hm
    obtain ⟨k, hk, hrange', -⟩ := (programFunction?_eq_some_iff p m).mp hm
    obtain rfl := hkey.unique hk
    exact hrange hrange'

theorem translate_functionKey_greatest :
    (⟨"F004294967282", ⟨true, true, true⟩⟩ : KeyPress).translate =
        some ⟨⟨"PF", ["4294967295"]⟩, .stopImmediate⟩ ∧
      (⟨"F4294967283", .shifted⟩ : KeyPress).translate = none := by
  have hgreatest : IsFunctionKey "F004294967282" 4294967282 := by
    refine ⟨"004294967282".toList, by decide, ?_, by decide, by decide⟩
    apply List.all_eq_true.mp
    decide
  have hnext : IsFunctionKey "F4294967283" 4294967283 := by
    refine ⟨"4294967283".toList, by decide, ?_, by decide, by decide⟩
    apply List.all_eq_true.mp
    decide
  constructor
  · refine ((translate_functionKey _).1 _ |>.mpr ⟨4294967282, hgreatest, ?_, ?_⟩).1
    · simp [InRange]
    · decide
  · apply (translate_functionKey _).2 4294967283 hnext
    simp [InRange, Modifiers.shifted]

end KeyPress

end Display3270
