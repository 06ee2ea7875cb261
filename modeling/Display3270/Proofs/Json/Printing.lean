import Display3270.Json.Printer
import Display3270.Proofs.Json.Normal

namespace Display3270

namespace Spelling

inductive Takes : Spelling → List Char → Spelling → Prop
  | nil (q : Spelling) : Takes q [] q
  | cons {q r s : Spelling} {c : Char} {cs : List Char} (first : q.step c = .more r)
      (rest : Takes r cs s) : Takes q (c :: cs) s

theorem Takes.append {q r s : Spelling} {cs ds : List Char} (h : Takes q cs r)
    (hr : Takes r ds s) : Takes q (cs ++ ds) s := by
  induction h with
  | nil => exact hr
  | cons first rest ih => exact .cons first (ih hr)

theorem hexValue_hexDigit : ∀ n, n < 16 → hexValue (Json.hexDigit n) = some n := by
  decide

theorem takes_control {c : Char} (h : c.toNat < 0x20) (acc : List Char) :
    Takes ⟨acc, true, .plain⟩
      ['\\', 'u', '0', '0', Json.hexDigit (c.toNat / 16), Json.hexDigit (c.toNat % 16)]
      ⟨c :: acc, true, .plain⟩ := by
  have hhigh := hexValue_hexDigit (c.toNat / 16) (by omega)
  have hlow := hexValue_hexDigit (c.toNat % 16) (by omega)
  have hcode : 16 * (c.toNat / 16) + c.toNat % 16 = c.toNat := by omega
  have hnotHigh : isHigh c.toNat = false := by
    simp only [isHigh, Bool.and_eq_false_iff, decide_eq_false_iff_not]
    omega
  have hnotLow : isLow c.toNat = false := by
    simp only [isLow, Bool.and_eq_false_iff, decide_eq_false_iff_not]
    omega
  refine .cons rfl (.cons rfl (.cons rfl (.cons rfl ?_)))
  refine .cons (r := ⟨acc, true, .hex none 3 (c.toNat / 16)⟩) ?_ (.cons ?_ (.nil _))
  · simp [step, hhigh]
  · simp [step, hlow, hcode, pushCode, hnotHigh, hnotLow, push]

theorem takes_escape (c : Char) (acc : List Char) :
    Takes ⟨acc, true, .plain⟩ (Json.escape c) ⟨c :: acc, true, .plain⟩ := by
  have hpair {a : Char} (h : step ⟨acc, true, .escape⟩ a = .more ⟨c :: acc, true, .plain⟩) :
      Takes ⟨acc, true, .plain⟩ ['\\', a] ⟨c :: acc, true, .plain⟩ :=
    .cons rfl (.cons h (.nil _))
  unfold Json.escape
  by_cases hquote : c = '"'
  · subst hquote
    exact hpair rfl
  by_cases hslash : c = '\\'
  · subst hslash
    exact hpair rfl
  by_cases hline : c = '\n'
  · subst hline
    exact hpair rfl
  by_cases hreturn : c = '\r'
  · subst hreturn
    exact hpair rfl
  by_cases htab : c = '\t'
  · subst htab
    exact hpair rfl
  by_cases hback : c = '\x08'
  · subst hback
    exact hpair rfl
  by_cases hfeed : c = '\x0c'
  · subst hfeed
    exact hpair rfl
  simp only [hquote, hslash, hline, hreturn, htab, hback, hfeed, ↓reduceIte]
  by_cases hlow : c.toNat < 0x20
  · rw [if_pos hlow]
    exact takes_control hlow acc
  · rw [if_neg hlow]
    refine .cons ?_ (.nil _)
    simp only [step, plainStep, hquote, hslash, hlow, ↓reduceIte, push]

theorem takes_escapes (cs acc : List Char) :
    Takes ⟨acc, true, .plain⟩ (cs.flatMap Json.escape) ⟨cs.reverse ++ acc, true, .plain⟩ := by
  induction cs generalizing acc with
  | nil => exact .nil _
  | cons c cs ih =>
    have hrest := ih (c :: acc)
    simp only [List.flatMap_cons, List.reverse_cons, List.append_assoc, List.singleton_append]
    exact (takes_escape c acc).append hrest

end Spelling

namespace Draft.Scanner

theorem string_takes {q r : Spelling} {cs : List Char} (h : q.Takes cs r) (st : List Frame) :
    cs.foldl step ⟨st, .string q⟩ = ⟨st, .string r⟩ := by
  induction h with
  | nil => rfl
  | cons first rest ih => simp only [List.foldl_cons, step, stepOutside, first, ih]

theorem keyString_takes {q r : Spelling} {cs : List Char} (h : q.Takes cs r) (st : List Frame)
    (done : List (Option String × Draft)) :
    cs.foldl step ⟨st, .keyString done q⟩ = ⟨st, .keyString done r⟩ := by
  induction h with
  | nil => rfl
  | cons first rest ih => simp only [List.foldl_cons, step, stepOutside, first, ih]

theorem scan_quoted (s : String) (st : List Frame) :
    (Json.quoted s).foldl step ⟨st, .value⟩ = deliver (.str s) st := by
  have htake := string_takes (Spelling.takes_escapes s.toList []) st
  have hfirst : step ⟨st, .value⟩ '"' = ⟨st, .string Spelling.start⟩ := rfl
  rw [Json.quoted, List.cons_append, List.foldl_cons, hfirst, List.foldl_append,
    Spelling.start, htake]
  simp [step, stepOutside, Spelling.step, Spelling.plainStep, Spelling.draft, Spelling.text?]

theorem scan_key {mode : Mode} {done : List (Option String × Draft)} {st : List Frame}
    (h : step ⟨st, mode⟩ '"' = ⟨st, .keyString done Spelling.start⟩) (k : String) :
    (Json.quoted k).foldl step ⟨st, mode⟩ = ⟨st, .colon done (some k)⟩ := by
  have htake := keyString_takes (Spelling.takes_escapes k.toList []) st done
  rw [Json.quoted, List.cons_append, List.foldl_cons, h, List.foldl_append, Spelling.start, htake]
  simp [step, stepOutside, Spelling.step, Spelling.plainStep, Spelling.text?]

end Draft.Scanner

namespace Draft.Scanner

def closes (c : Char) : Bool := isSpace c || c == ',' || c == ']' || c == '\x7d'

structure Settles (s : Scanner) (d : Draft) (st : List Frame) : Prop where
  finish : s.finish = (deliver d st).finish
  step : ∀ c, closes c → s.step c = (deliver d st).step c

theorem settles_deliver (d : Draft) (st : List Frame) : (deliver d st).Settles d st :=
  ⟨rfl, fun _ _ => rfl⟩

theorem step_deliver (d : Draft) (st : List Frame) (c : Char) :
    step (deliver d st) c = stepOutside (deliver d st) c := by
  cases st with
  | nil => rfl
  | cons frame st => cases frame <;> rfl

theorem settles_number {n : Numeral} {p : Numeral.Phase} (hp : p.complete) (st : List Frame) :
    Settles ⟨st, .number n p⟩ n.draft st where
  finish := (finish_deliver n.draft st n p rfl hp).symm
  step := by
    intro c hc
    have hends : n.step p c = .ends := by
      simp only [closes, isSpace, Bool.or_eq_true, decide_eq_true_eq, beq_iff_eq, or_assoc] at hc
      cases p
      case zero | whole | fraction | exponent =>
        rcases hc with rfl | rfl | rfl | rfl | rfl | rfl | rfl <;> rfl
      all_goals cases hp
    rw [step_deliver]
    simp only [step, hends]

theorem scan_spaces {s : Scanner} (hs : ∀ c, isSpace c → s.step c = s) {cs : List Char}
    (h : ∀ c ∈ cs, isSpace c) : cs.foldl step s = s := by
  induction cs with
  | nil => rfl
  | cons c cs ih =>
    obtain ⟨hc, hcs⟩ := List.forall_mem_cons.mp h
    rw [List.foldl_cons, hs c hc, ih hcs]

theorem deliver_space (d : Draft) (st : List Frame) (c : Char) (h : isSpace c) :
    step (deliver d st) c = deliver d st := by
  cases st with
  | nil => simp [deliver, step, stepOutside, h]
  | cons frame st => cases frame <;> simp [deliver, step, stepOutside, h]

theorem Settles.spaces {s : Scanner} {d : Draft} {st : List Frame} (h : s.Settles d st)
    {cs : List Char} (hcs : ∀ c ∈ cs, isSpace c) :
    (cs.foldl Scanner.step s).Settles d st := by
  cases cs with
  | nil => exact h
  | cons c cs =>
    obtain ⟨hc, hcs⟩ := List.forall_mem_cons.mp hcs
    have hclose : closes c := by simp [closes, hc]
    rw [List.foldl_cons, h.step c hclose, deliver_space d st c hc,
      scan_spaces (deliver_space d st) hcs]
    exact settles_deliver d st

theorem number_takes {n m : Numeral} {p q : Numeral.Phase} {cs : List Char}
    (h : Numeral.Takes n p cs m q) (st : List Frame) :
    cs.foldl step ⟨st, .number n p⟩ = ⟨st, .number m q⟩ := by
  induction h with
  | nil => rfl
  | cons first rest ih => simp only [List.foldl_cons, step, first, ih]

theorem begin_start {c : Char} {n : Numeral} {p : Numeral.Phase}
    (h : Numeral.start c = some (n, p)) (st : List Frame) :
    begin st c = ⟨st, .number n p⟩ ∧ isSpace c = false ∧ c ≠ ']' := by
  have hne (a : Char) (ha : Numeral.start a = none) : c ≠ a := by
    rintro rfl
    rw [ha] at h
    cases h
  refine ⟨?_, ?_, hne ']' rfl⟩
  · simp [begin, h, hne '"' rfl, hne '[' rfl, hne '\x7b' rfl, hne 'n' rfl, hne 't' rfl, hne 'f' rfl]
  · simp [isSpace, hne ' ' rfl, hne '\n' rfl, hne '\t' rfl, hne '\r' rfl]

theorem spelled_eq_cons {cs : List Char} {x : Number} (h : Number.Spelled cs x) :
    ∃ c ds, cs = c :: ds ∧ isSpace c = false ∧ c ≠ ']' := by
  obtain ⟨n, hn, rfl, -⟩ := h
  obtain ⟨c, ds, m, p, q, htext, hstart, -, -⟩ := Numeral.takes_spell hn
  obtain ⟨-, hspace, hend⟩ := begin_start hstart []
  exact ⟨c, ds, htext, hspace, hend⟩

theorem settles_spelled {cs : List Char} {x : Number} (h : Number.Spelled cs x)
    (st : List Frame) : Settles (cs.foldl step ⟨st, .value⟩) (.num x) st := by
  obtain ⟨n, hn, rfl, hread⟩ := h
  obtain ⟨c, ds, m, p, q, htext, hstart, htakes, hcomplete⟩ := Numeral.takes_spell hn
  obtain ⟨hbegin, hspace, -⟩ := begin_start hstart st
  have hfirst : step ⟨st, .value⟩ c = ⟨st, .number m p⟩ := by
    simp only [step, stepOutside, hspace, hbegin, Bool.false_eq_true, ↓reduceIte]
  have hdraft : n.draft = .num x := by simp only [Numeral.draft, hread]
  rw [htext, List.foldl_cons, hfirst, number_takes htakes, ← hdraft]
  exact settles_number hcomplete st

end Draft.Scanner

namespace Json

mutual

inductive ReadAs : Json → Json → Prop
  | null : ReadAs .null .null
  | bool (b : Bool) : ReadAs (.bool b) (.bool b)
  | num {n m : Number} (h : n.ReadAs m) : ReadAs (.num n) (.num m)
  | str (s : String) : ReadAs (.str s) (.str s)
  | arr {xs ys : List Json} (h : ItemsReadAs xs ys) : ReadAs (.arr xs) (.arr ys)
  | obj {ms ns : List (String × Json)} (h : MembersReadAs ms ns) : ReadAs (.obj ms) (.obj ns)

inductive ItemsReadAs : List Json → List Json → Prop
  | nil : ItemsReadAs [] []
  | cons {x y : Json} {xs ys : List Json} (first : ReadAs x y) (rest : ItemsReadAs xs ys) :
      ItemsReadAs (x :: xs) (y :: ys)

inductive MembersReadAs : List (String × Json) → List (String × Json) → Prop
  | nil : MembersReadAs [] []
  | cons {x y : Json} {ms ns : List (String × Json)} (k : String) (first : ReadAs x y)
      (rest : MembersReadAs ms ns) : MembersReadAs ((k, x) :: ms) ((k, y) :: ns)

end

theorem MembersReadAs.append {ms ns ps qs : List (String × Json)} (h : MembersReadAs ms ns)
    (hp : MembersReadAs ps qs) : MembersReadAs (ms ++ ps) (ns ++ qs) := by
  cases h with
  | nil => exact hp
  | cons k first rest => exact .cons k first (rest.append hp)

theorem itemsReadAs_refl {xs : List Json} (h : ∀ x ∈ xs, ReadAs x x) : ItemsReadAs xs xs := by
  induction xs with
  | nil => exact .nil
  | cons x xs ih =>
    obtain ⟨hx, hxs⟩ := List.forall_mem_cons.mp h
    exact .cons hx (ih hxs)

theorem membersReadAs_refl {ms : List (String × Json)} (h : ∀ m ∈ ms, ReadAs m.2 m.2) :
    MembersReadAs ms ms := by
  induction ms with
  | nil => exact .nil
  | cons m ms ih =>
    obtain ⟨hm, hms⟩ := List.forall_mem_cons.mp h
    exact .cons m.1 hm (ih hms)

theorem Exact.readAs {j : Json} (h : j.Exact) : j.ReadAs j := by
  induction h with
  | null => exact .null
  | bool b => exact .bool b
  | int h => exact .num (Number.readAs_int h)
  | str s => exact .str s
  | arr h ih => exact .arr (itemsReadAs_refl ih)
  | obj h ih => exact .obj (membersReadAs_refl ih)

open Draft.Scanner (isSpace)

structure Spacing.Blank (sp : Spacing) : Prop where
  lineBreak (n : Nat) : ∀ c ∈ sp.lineBreak n, isSpace c
  afterColon : ∀ c ∈ sp.afterColon, isSpace c

@[simp]
theorem Spacing.compact_lineBreak (n : Nat) : Spacing.compact.lineBreak n = [] := rfl

@[simp]
theorem Spacing.compact_afterColon : Spacing.compact.afterColon = [] := rfl

theorem Spacing.blank_compact : Spacing.compact.Blank := ⟨by simp, by simp⟩

theorem Spacing.blank_indented : Spacing.indented.Blank := by
  constructor
  · intro n c hc
    rcases List.mem_cons.mp hc with rfl | hc
    · rfl
    · obtain ⟨-, rfl⟩ := List.mem_replicate.mp hc
      rfl
  · intro c hc
    obtain rfl := List.mem_singleton.mp hc
    rfl

theorem chars_items (sp : Spacing) (depth : Nat) (x : Json) (xs : List Json) :
    chars sp depth (.arr (x :: xs)) =
      '[' :: (sp.lineBreak (depth + 1) ++ (chars sp (depth + 1) x ++
        (itemChars sp (depth + 1) xs ++ (sp.lineBreak depth ++ [']'])))) := by
  simp [chars]

theorem chars_members (sp : Spacing) (depth : Nat) (k : String) (x : Json)
    (ms : List (String × Json)) :
    chars sp depth (.obj ((k, x) :: ms)) =
      '\x7b' :: (sp.lineBreak (depth + 1) ++ (quoted k ++ ':' :: (sp.afterColon ++
        (chars sp (depth + 1) x ++
          (memberChars sp (depth + 1) ms ++ (sp.lineBreak depth ++ ['\x7d'])))))) := by
  simp [chars]

theorem itemChars_cons (sp : Spacing) (depth : Nat) (x : Json) (xs : List Json) :
    itemChars sp depth (x :: xs) =
      ',' :: (sp.lineBreak depth ++ (chars sp depth x ++ itemChars sp depth xs)) := by
  simp [itemChars]

theorem memberChars_cons (sp : Spacing) (depth : Nat) (k : String) (x : Json)
    (ms : List (String × Json)) :
    memberChars sp depth ((k, x) :: ms) =
      ',' :: (sp.lineBreak depth ++ (quoted k ++ ':' :: (sp.afterColon ++
        (chars sp depth x ++ memberChars sp depth ms)))) := by
  simp [memberChars]

end Json

namespace Draft.Scanner

open Json (Spacing chars itemChars memberChars chars_items chars_members itemChars_cons
  memberChars_cons)

theorem chars_eq_cons {j k : Json} (h : j.ReadAs k) (sp : Spacing) (depth : Nat) :
    ∃ c cs, chars sp depth j = c :: cs ∧ isSpace c = false ∧ c ≠ ']' := by
  cases h with
  | null => exact ⟨'n', _, by rw [chars]; rfl, rfl, by decide⟩
  | bool b =>
    cases b with
    | true => exact ⟨'t', _, by rw [chars]; rfl, rfl, by decide⟩
    | false => exact ⟨'f', _, by rw [chars]; rfl, rfl, by decide⟩
  | num h =>
    rw [chars]
    exact spelled_eq_cons h
  | str s => exact ⟨'"', _, by rw [chars]; rfl, rfl, by decide⟩
  | @arr xs ys h =>
    cases xs with
    | nil => exact ⟨'[', _, by rw [chars], rfl, by decide⟩
    | cons x xs => exact ⟨'[', _, chars_items sp depth x xs, rfl, by decide⟩
  | @obj ms ns h =>
    cases ms with
    | nil => exact ⟨'\x7b', _, by rw [chars], rfl, by decide⟩
    | cons m ms => exact ⟨'\x7b', _, chars_members sp depth m.1 m.2 ms, rfl, by decide⟩

theorem scan_firstItem {x y : Json} (h : x.ReadAs y) (sp : Spacing) (depth : Nat)
    (st : List Frame) :
    (chars sp depth x).foldl step ⟨st, .itemOrEnd⟩ =
      (chars sp depth x).foldl step ⟨.items [] :: st, .value⟩ := by
  obtain ⟨c, cs, hc, hspace, hend⟩ := chars_eq_cons h sp depth
  rw [hc, List.foldl_cons, List.foldl_cons]
  simp only [step, stepOutside, hspace, hend, Bool.false_eq_true, ↓reduceIte]

def passes : Mode → Bool
  | .value | .itemOrEnd | .keyOrEnd | .key _ => true
  | _ => false

theorem pass_spaces (mode : Mode) (hmode : passes mode) {cs : List Char}
    (h : ∀ c ∈ cs, isSpace c) (st : List Frame) : cs.foldl step ⟨st, mode⟩ = ⟨st, mode⟩ := by
  apply scan_spaces _ h
  intro c hc
  cases mode
  case value | itemOrEnd | keyOrEnd | key => simp [step, stepOutside, hc]
  all_goals cases hmode

variable {sp : Spacing} (hsp : sp.Blank)
include hsp

-- Along the printer. A number is delivered only by the character after it, so that `Settles`,
-- and not an equation, carries the reading from a value to the comma or bracket that follows.
mutual

theorem settles_chars : ∀ (j : Json) {k : Json}, j.ReadAs k → ∀ (depth : Nat) (st : List Frame),
    Settles ((chars sp depth j).foldl step ⟨st, .value⟩) (ofJson k) st
  | .null, _, .null, depth, st => by
    rw [chars]
    exact settles_deliver .null st
  | .bool true, _, .bool true, depth, st => by
    rw [chars]
    exact settles_deliver (.bool true) st
  | .bool false, _, .bool false, depth, st => by
    rw [chars]
    exact settles_deliver (.bool false) st
  | .num n, _, .num h, depth, st => by
    rw [chars]
    exact settles_spelled h st
  | .str s, _, .str _, depth, st => by
    rw [chars, scan_quoted]
    exact settles_deliver (.str s) st
  | .arr [], _, .arr .nil, depth, st => by
    rw [chars]
    exact settles_deliver (.arr [] none) st
  | .arr (x :: xs), _, .arr (.cons hx hxs), depth, st => by
    have hfirst := settles_chars x hx (depth + 1) (.items [] :: st)
    have hrest := scan_items xs hxs (depth + 1) depth hfirst
    have hopen : step ⟨st, .value⟩ '[' = ⟨st, .itemOrEnd⟩ := rfl
    rw [chars_items, List.foldl_cons, hopen, List.foldl_append,
      pass_spaces .itemOrEnd rfl (hsp.lineBreak _), List.foldl_append, scan_firstItem hx, hrest]
    exact settles_deliver _ st
  | .obj [], _, .obj .nil, depth, st => by
    rw [chars]
    exact settles_deliver (.obj [] none) st
  | .obj ((k, x) :: ms), _, .obj (.cons _ hx hms), depth, st => by
    have hfirst := settles_chars x hx (depth + 1) (.members [] (some k) :: st)
    have hrest := scan_members ms hms (depth + 1) depth hfirst
    have hopen : step ⟨st, .value⟩ '\x7b' = ⟨st, .keyOrEnd⟩ := rfl
    have hcolon : step ⟨st, .colon [] (some k)⟩ ':' = ⟨.members [] (some k) :: st, .value⟩ := rfl
    rw [chars_members, List.foldl_cons, hopen, List.foldl_append,
      pass_spaces .keyOrEnd rfl (hsp.lineBreak _), List.foldl_append, scan_key rfl, List.foldl_cons,
      hcolon, List.foldl_append, pass_spaces .value rfl hsp.afterColon, List.foldl_append, hrest]
    exact settles_deliver _ st

theorem scan_items : ∀ (xs : List Json) {ys : List Json}, Json.ItemsReadAs xs ys →
    ∀ (depth outer : Nat) {s : Scanner} {d : Draft} {done : List Draft} {st : List Frame},
    s.Settles d (.items done :: st) →
    (itemChars sp depth xs ++ (sp.lineBreak outer ++ [']'])).foldl step s =
      deliver (.arr ((d :: done).reverse ++ ofItems ys) none) st
  | [], _, .nil, depth, outer, s, d, done, st, hs => by
    rw [itemChars, ofItems, List.append_nil, List.nil_append, List.foldl_append]
    exact (hs.spaces (hsp.lineBreak outer)).step ']' rfl
  | x :: xs, _, .cons hx hxs, depth, outer, s, d, done, st, hs => by
    have hfirst := settles_chars x hx depth (.items (d :: done) :: st)
    have hrest := scan_items xs hxs depth outer hfirst
    have hcomma : s.step ',' = ⟨.items (d :: done) :: st, .value⟩ := hs.step ',' rfl
    rw [itemChars_cons, List.cons_append, List.foldl_cons, hcomma, List.append_assoc,
      List.foldl_append, pass_spaces .value rfl (hsp.lineBreak depth), List.append_assoc,
      List.foldl_append, hrest]
    simp [ofItems]

theorem scan_members : ∀ (ms : List (String × Json)) {ns : List (String × Json)},
    Json.MembersReadAs ms ns → ∀ (depth outer : Nat) {s : Scanner} {d : Draft}
    {done : List (Option String × Draft)} {key : Option String} {st : List Frame},
    s.Settles d (.members done key :: st) →
    (memberChars sp depth ms ++ (sp.lineBreak outer ++ ['\x7d'])).foldl step s =
      deliver (.obj (((key, d) :: done).reverse ++ ofMembers ns) none) st
  | [], _, .nil, depth, outer, s, d, done, key, st, hs => by
    rw [memberChars, ofMembers, List.append_nil, List.nil_append, List.foldl_append]
    exact (hs.spaces (hsp.lineBreak outer)).step '\x7d' rfl
  | (k, x) :: ms, _, .cons _ hx hms, depth, outer, s, d, done, key, st, hs => by
    have hfirst := settles_chars x hx depth (.members ((key, d) :: done) (some k) :: st)
    have hrest := scan_members ms hms depth outer hfirst
    have hcomma : s.step ',' = ⟨st, .key ((key, d) :: done)⟩ := hs.step ',' rfl
    have hcolon : step ⟨st, .colon ((key, d) :: done) (some k)⟩ ':' =
        ⟨.members ((key, d) :: done) (some k) :: st, .value⟩ := rfl
    rw [memberChars_cons, List.cons_append, List.foldl_cons, hcomma, List.append_assoc,
      List.foldl_append, pass_spaces (.key _) rfl (hsp.lineBreak depth), List.append_assoc,
      List.foldl_append, scan_key rfl, List.cons_append, List.foldl_cons, hcolon,
      List.append_assoc, List.foldl_append, pass_spaces .value rfl hsp.afterColon,
      List.append_assoc, List.foldl_append, hrest]
    simp [ofMembers]

end

theorem scan_chars {j k : Json} (h : j.ReadAs k) (depth : Nat) :
    scan (chars sp depth j) = (ofJson k, false) :=
  (settles_chars hsp j h depth []).finish

end Draft.Scanner

namespace Json

def Shown (cs : List Char) : Prop := ∀ c ∈ cs, 0x20 ≤ c.toNat

@[simp]
theorem shown_nil : Shown [] := nofun

@[simp]
theorem shown_cons (c : Char) (cs : List Char) : Shown (c :: cs) ↔ 0x20 ≤ c.toNat ∧ Shown cs :=
  List.forall_mem_cons

@[simp]
theorem shown_append (cs ds : List Char) : Shown (cs ++ ds) ↔ Shown cs ∧ Shown ds :=
  List.forall_mem_append

theorem shown_hexDigit : ∀ n < 16, 0x20 ≤ (hexDigit n).toNat := by
  decide

theorem shown_escape (c : Char) : Shown (escape c) := by
  unfold escape
  iterate 7
    split
    · simp
  split
  case isTrue hlow =>
    have hhigh := shown_hexDigit (c.toNat / 16) (by omega)
    have hlast := shown_hexDigit (c.toNat % 16) (by omega)
    simp [hhigh, hlast]
  case isFalse hlow => simpa using hlow

theorem shown_quoted (s : String) : Shown (quoted s) := by
  have hbody : Shown (s.toList.flatMap escape) := by
    intro a ha
    obtain ⟨c, -, hc⟩ := List.mem_flatMap.mp ha
    exact shown_escape c a hc
  simp [quoted, hbody]

theorem shown_decimal (n : Nat) : Shown (decimal n) := by
  intro c hc
  have hdigit := isDigit_decimal hc
  simp only [Char.isDigit, Bool.and_eq_true, decide_eq_true_eq] at hdigit
  have hle : '0'.toNat ≤ c.toNat := hdigit.1
  exact Nat.le_trans (by decide) hle

mutual

theorem shown_chars : ∀ (j : Json), j.Exact → ∀ depth, Shown (chars .compact depth j)
  | .null, _, depth => by simp [chars]
  | .bool true, _, depth => by simp [chars]
  | .bool false, _, depth => by simp [chars]
  | .num n, h, depth => by
    cases h with
    | int h =>
      rw [chars, Number.chars]
      split
      · simp [shown_decimal]
      · exact shown_decimal _
  | .str s, _, depth => by
    rw [chars]
    exact shown_quoted s
  | .arr [], _, depth => by simp [chars]
  | .arr (x :: xs), .arr h, depth => by
    obtain ⟨hx, hxs⟩ := List.forall_mem_cons.mp h
    have hfirst := shown_chars x hx (depth + 1)
    have hrest := shown_itemChars xs hxs (depth + 1)
    simp [chars_items, hfirst, hrest]
  | .obj [], _, depth => by simp [chars]
  | .obj ((k, x) :: ms), .obj h, depth => by
    obtain ⟨hx, hms⟩ := List.forall_mem_cons.mp h
    have hfirst := shown_chars x hx (depth + 1)
    have hrest := shown_memberChars ms hms (depth + 1)
    simp [chars_members, shown_quoted, hfirst, hrest]

theorem shown_itemChars : ∀ (xs : List Json), (∀ x ∈ xs, x.Exact) →
    ∀ depth, Shown (itemChars .compact depth xs)
  | [], _, depth => by simp [itemChars]
  | x :: xs, h, depth => by
    obtain ⟨hx, hxs⟩ := List.forall_mem_cons.mp h
    have hfirst := shown_chars x hx depth
    have hrest := shown_itemChars xs hxs depth
    simp [itemChars_cons, hfirst, hrest]

theorem shown_memberChars : ∀ (ms : List (String × Json)), (∀ m ∈ ms, m.2.Exact) →
    ∀ depth, Shown (memberChars .compact depth ms)
  | [], _, depth => by simp [memberChars]
  | (k, x) :: ms, h, depth => by
    obtain ⟨hx, hms⟩ := List.forall_mem_cons.mp h
    have hfirst := shown_chars x hx depth
    have hrest := shown_memberChars ms hms depth
    simp [memberChars_cons, shown_quoted, hfirst, hrest]

end

end Json

/-- Reading a printed text gives what its numbers are read as, in its normal form. -/
theorem Json.parse_compact {j k : Json} (h : j.ReadAs k) (hd : k.depth ≤ Draft.depthLimit) :
    parse j.compact = .ok k.normal := by
  have hscan : Draft.scan j.compact.toList = (Draft.ofJson k, false) := by
    rw [compact, String.toList_ofList, Draft.Scanner.scan_chars Spacing.blank_compact h]
  rw [parse_eq_ok_iff, hscan]
  refine ⟨Draft.value_ofJson (some Draft.depthLimit) k ?_, rfl⟩
  rintro n ⟨⟩
  exact hd

end Display3270
