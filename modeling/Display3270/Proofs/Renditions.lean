import Mathlib.Data.Nat.Bitwise
import Display3270.Proofs.Grid

namespace Display3270

theorem cut_eq_splitOn (separator : Char) (cs : List Char) :
    cut separator cs = cs.splitOn separator := by
  induction cs with
  | nil => rfl
  | cons c cs ih =>
    rw [cut, ih, List.splitOn_cons_eq_if_modifyHead]
    by_cases h : c = separator
    · simp [h]
    · have hne : cs.splitOn separator ≠ [] := List.splitOn_ne_nil separator cs
      obtain ⟨part, parts, hparts⟩ := List.exists_cons_of_ne_nil hne
      simp [h, hparts]

theorem splitOn_comma (a b : String) :
    (a ++ "," ++ b).toList.splitOn ',' = a.toList.splitOn ',' ++ b.toList.splitOn ',' := by
  have hlist : (a ++ "," ++ b).toList = a.toList ++ ',' :: b.toList := by simp
  rw [hlist]
  exact List.splitOnP_append_cons _ _ (beq_self_eq_true ',')

namespace Rendition

theorem eq_of_bits {a b : Rendition} (h : a.bits = b.bits) : a = b := by
  cases a
  cases b
  cases h
  rfl

theorem empty_union (r : Rendition) : empty.union r = r := by
  simp [union, empty]

theorem union_empty (r : Rendition) : r.union empty = r := by
  simp [union, empty]

theorem union_assoc (a b c : Rendition) : (a.union b).union c = a.union (b.union c) := by
  simp [union, Nat.or_assoc]

def unions (rs : List Rendition) : Rendition := rs.foldl union empty

theorem foldl_union (rs : List Rendition) (acc : Rendition) :
    rs.foldl union acc = acc.union (unions rs) := by
  unfold unions
  induction rs generalizing acc with
  | nil => exact (union_empty acc).symm
  | cons r rs ih =>
    rw [List.foldl_cons, List.foldl_cons, ih (acc.union r), ih (empty.union r), empty_union,
      union_assoc]

theorem unions_cons (r : Rendition) (rs : List Rendition) :
    unions (r :: rs) = r.union (unions rs) := by
  have h := foldl_union rs (empty.union r)
  rw [empty_union] at h
  rw [← h, unions, List.foldl_cons, empty_union]

theorem all_eq_unions : all = unions (flags.map (·.1)) := rfl

theorem ofSpec_eq_unions (spec : String) :
    ofSpec spec = unions ((cut ',' spec.toList).map ofPart) := by
  unfold ofSpec unions
  rw [List.foldl_map]
  split
  case isTrue h =>
    -- the two words for no flags name none inside of a list, either
    rcases h with rfl | rfl
    · decide
    · decide
  case isFalse => rfl

theorem contains_eq_testBit {f : Rendition} {i : Nat} (hf : f.bits = 2 ^ i) (r : Rendition) :
    r.contains f = r.bits.testBit i := by
  have hpos : 2 ^ i ≠ 0 := (Nat.two_pow_pos i).ne'
  rw [contains, hf, Nat.and_two_pow]
  cases r.bits.testBit i <;> simp [hpos.symm]

theorem contains_flag {f : Rendition} {i : Nat} (hf : f.bits = 2 ^ i) (r : Rendition) :
    r.bits &&& f.bits = if r.contains f then f.bits else 0 := by
  rw [contains_eq_testBit hf, hf, Nat.and_two_pow]
  cases r.bits.testBit i <;> simp

theorem unions_filter (r : Rendition) (fs : List Rendition)
    (hfs : ∀ f ∈ fs, ∃ i, f.bits = 2 ^ i) :
    (unions (fs.filter r.contains)).bits = r.bits &&& (unions fs).bits := by
  induction fs with
  | nil => exact (Nat.and_zero r.bits).symm
  | cons f fs ih =>
    obtain ⟨⟨i, hf⟩, hrest⟩ := List.forall_mem_cons.mp hfs
    have hflag := contains_flag hf r
    rw [unions_cons, union, Nat.and_or_distrib_left, hflag, ← ih hrest]
    by_cases hc : r.contains f = true
    · rw [List.filter_cons_of_pos hc, unions_cons, if_pos hc, union]
    · rw [List.filter_cons_of_neg hc, if_neg hc, Nat.zero_or]

theorem flags_single : ∀ f ∈ flags.map (·.1), ∃ i, f.bits = 2 ^ i := by
  have hbits : ∀ f ∈ flags.map (·.1), ∃ i < 10, f.bits = 2 ^ i := by decide
  intro f hf
  obtain ⟨i, -, hi⟩ := hbits f hf
  exact ⟨i, hi⟩

theorem unions_flags {r : Rendition} (h : all.contains r = true) :
    unions ((flags.map (·.1)).filter r.contains) = r := by
  rw [contains, beq_iff_eq, Nat.and_comm] at h
  apply eq_of_bits
  rw [unions_filter r (flags.map (·.1)) flags_single, ← all_eq_unions, h]

theorem unions_names {r : Rendition} (h : all.contains r = true) :
    unions ((r.names.map String.toList).map ofPart) = r := by
  have hname : ∀ f ∈ flags, ofPart f.2.toList = f.1 := by decide
  have hparts : (r.names.map String.toList).map ofPart =
      (flags.map (·.1)).filter r.contains := by
    rw [names, List.map_map, List.map_map, List.filter_map]
    apply List.map_congr_left
    intro f hf
    obtain ⟨hmem, -⟩ := List.mem_filter.mp hf
    rw [Function.comp_apply, Function.comp_apply, hname f hmem]
  rw [hparts, unions_flags h]

theorem ofSpec_text {r : Rendition} (h : all.contains r = true) : ofSpec r.text = r := by
  by_cases hempty : r = empty
  · rw [hempty]
    decide
  · have hunions := unions_names h
    have hnames : r.names ≠ [] := by
      intro hnil
      rw [hnil] at hunions
      exact hempty hunions.symm
    have hcomma : ∀ part ∈ r.names.map String.toList, ',' ∉ part := by
      have hflags : ∀ f ∈ flags, ',' ∉ f.2.toList := by decide
      intro part hpart
      obtain ⟨name, hname, rfl⟩ := List.mem_map.mp hpart
      obtain ⟨f, hf, rfl⟩ := List.mem_map.mp hname
      obtain ⟨hmem, -⟩ := List.mem_filter.mp hf
      exact hflags f hmem
    have hcut : cut ',' (",".intercalate r.names).toList = r.names.map String.toList := by
      rw [cut_eq_splitOn, String.toList_intercalate]
      exact List.splitOn_intercalate ',' hcomma (by simpa using hnames)
    rw [text, if_neg hempty, ofSpec_eq_unions, hcut, hunions]

theorem text_inj {a b : Rendition} (ha : all.contains a = true) (hb : all.contains b = true)
    (h : a.text = b.text) : a = b := by
  rw [← ofSpec_text ha, ← ofSpec_text hb, h]

theorem unions_append (rs ss : List Rendition) :
    unions (rs ++ ss) = (unions rs).union (unions ss) := by
  rw [unions, List.foldl_append, foldl_union ss]
  rfl

theorem contains_unions {f : Rendition} (hf : f ∈ flags.map (·.1)) (rs : List Rendition) :
    (unions rs).contains f = rs.any fun r => r.contains f := by
  obtain ⟨i, hi⟩ := flags_single f hf
  induction rs with
  | nil => simp [contains_eq_testBit hi, unions, empty]
  | cons r rs ih =>
    rw [unions_cons, List.any_cons, ← ih]
    simp only [contains_eq_testBit hi, union, Nat.testBit_or]

def parts (spec : String) : List String :=
  (spec.toList.splitOn ',').map fun part => String.ofList (trim part)

theorem parts_append (a b : String) : parts (a ++ "," ++ b) = parts a ++ parts b := by
  rw [parts, splitOn_comma, List.map_append, parts, parts]

theorem ofSpec_eq_parts (spec : String) :
    ofSpec spec = unions ((parts spec).map fun name => (ofName? name).getD empty) := by
  rw [ofSpec_eq_unions, cut_eq_splitOn, parts, List.map_map]
  rfl

theorem ofSpec_append (a b : String) :
    ofSpec (a ++ "," ++ b) = (ofSpec a).union (ofSpec b) := by
  rw [ofSpec_eq_parts, parts_append, List.map_append, unions_append, ← ofSpec_eq_parts,
    ← ofSpec_eq_parts]

theorem contains_ofName? {f : Rendition × String} (hf : f ∈ flags) (name : String) :
    ((ofName? name).getD empty).contains f.1 = true ↔ name = f.2 := by
  have hflags : ∀ g ∈ flags, ∀ f ∈ flags, (g.1.contains f.1 = true ↔ g.2 = f.2) := by decide
  have hempty : ∀ f ∈ flags, empty.contains f.1 = false := by decide
  cases hfind : flags.find? fun g => g.2 == name with
  | none =>
    have hne := List.find?_eq_none.mp hfind f hf
    simp only [ofName?, hfind, Option.map_none, Option.getD_none, hempty f hf, Bool.false_eq_true,
      false_iff]
    rintro rfl
    exact hne (beq_self_eq_true f.2)
  | some g =>
    have hname : g.2 = name := by simpa using List.find?_some hfind
    rw [ofName?, hfind, Option.map_some, Option.getD_some, ← hname]
    exact hflags g (List.mem_of_find?_eq_some hfind) f hf

theorem contains_ofSpec {f : Rendition × String} (hf : f ∈ flags) (spec : String) :
    (ofSpec spec).contains f.1 = true ↔ f.2 ∈ parts spec := by
  rw [ofSpec_eq_parts, contains_unions (List.mem_map_of_mem hf), List.any_map, List.any_eq_true]
  simp only [Function.comp_apply, contains_ofName? hf, exists_eq_right]

theorem eq_iff_contains {a b : Rendition} (ha : all.contains a = true)
    (hb : all.contains b = true) :
    a = b ↔ ∀ f ∈ flags, (a.contains f.1 = true ↔ b.contains f.1 = true) := by
  constructor
  · rintro rfl f -
    rfl
  · intro h
    have hsame : ∀ f ∈ flags.map (·.1), a.contains f = b.contains f := by
      intro f hf
      obtain ⟨g, hg, rfl⟩ := List.mem_map.mp hf
      exact Bool.eq_iff_iff.mpr (h g hg)
    rw [← unions_flags ha, ← unions_flags hb, List.filter_congr hsame]

def known (spec : String) : List String :=
  (flags.map (·.2)).filter fun name => name ∈ parts spec

theorem names_ofSpec (spec : String) : (ofSpec spec).names = known spec := by
  rw [names, known, List.filter_map]
  apply congrArg
  apply List.filter_congr
  intro f hf
  rw [Bool.eq_iff_iff, contains_ofSpec hf, Function.comp_apply, decide_eq_true_eq]

theorem ofSpec_eq_empty_iff (spec : String) : ofSpec spec = empty ↔ known spec = [] := by
  rw [← names_ofSpec]
  constructor
  · intro h
    rw [h]
    decide
  · intro h
    rw [← unions_names (all_contains_ofSpec spec), h]
    rfl

/-- A list stands for the flags of its parts, so two lists with a comma between them stand for those
of both; neither order nor repetition counts, nor does what is no name of a flag. Written down, the
flags read back, each once and in their order. -/
theorem ofSpec_lists (a b : String) :
    ofSpec (a ++ "," ++ b) = (ofSpec a).union (ofSpec b) ∧
    (∀ f ∈ flags, (ofSpec a).contains f.1 = true ↔ f.2 ∈ parts a) ∧
    (ofSpec a = ofSpec b ↔ ∀ f ∈ flags, (f.2 ∈ parts a ↔ f.2 ∈ parts b)) ∧
    ofSpec (ofSpec a).text = ofSpec a ∧
    (ofSpec a).text = (if known a = [] then "none" else ",".intercalate (known a)) ∧
    (known a).Nodup := by
  refine ⟨ofSpec_append a b, fun f hf => contains_ofSpec hf a, ?_,
    ofSpec_text (all_contains_ofSpec a), ?_, ?_⟩
  · rw [eq_iff_contains (all_contains_ofSpec a) (all_contains_ofSpec b)]
    apply forall₂_congr
    intro f hf
    rw [contains_ofSpec hf, contains_ofSpec hf]
  · simp only [text, ofSpec_eq_empty_iff, names_ofSpec]
  · have hnames : (flags.map (·.2)).Nodup := by decide
    exact hnames.filter _

theorem ofSpec_lists_reordered :
    ofSpec " wrap ,blink,wrap,sparkle" = ofSpec "default,blink,\u3000wrap" := by
  have hsame : ∀ f ∈ flags, (f.2 ∈ parts " wrap ,blink,wrap,sparkle" ↔
      f.2 ∈ parts "default,blink,\u3000wrap") := by
    decide
  exact (ofSpec_lists " wrap ,blink,wrap,sparkle" "default,blink,\u3000wrap").2.2.1.mpr hsame

end Rendition

end Display3270
