import Display3270.Proofs.Indication.Tolerance

namespace Display3270

namespace Json

def batch (items : List Json) : Json := .obj [(batchTag, .arr items)]

def IsBatch (j : Json) : Prop := ∃ items, j = batch items

def batched : Json → List Json
  | .obj [(tag, .arr items)] => if tag = batchTag then items else []
  | _ => []

/-- What stands at a place inside batches. A place is given by the number of the member to go to
in each batch, the outermost first. -/
def inside? (j : Json) : List Nat → Option Json
  | [] => some j
  | k :: path => j.batched[k]?.bind fun x => x.inside? path

@[simp] theorem batched_batch (items : List Json) : (batch items).batched = items := by
  simp [batch, batched]

theorem batched_of_ne {tag : String} (h : tag ≠ batchTag) (body : Json) :
    (Json.obj [(tag, body)]).batched = [] := by
  cases body <;> simp [batched, h]

theorem inside?_cons (j : Json) (k : Nat) (path : List Nat) :
    j.inside? (k :: path) = j.batched[k]?.bind fun x => x.inside? path := rfl

theorem inside?_batch {items : List Json} {k : Nat} {path : List Nat} {y : Json} :
    (batch items).inside? (k :: path) = some y ↔
      ∃ x, items[k]? = some x ∧ x.inside? path = some y := by
  simp [inside?_cons, Option.bind_eq_some_iff]

theorem batch_induction {P : Json → Prop} (leaf : ∀ j, ¬j.IsBatch → P j)
    (step : ∀ items, (∀ x ∈ items, P x) → P (batch items)) (j : Json) : P j := by
  by_cases hj : j.IsBatch
  · obtain ⟨items, hitems⟩ := hj
    rw [hitems]
    exact step items fun x hx => batch_induction leaf step x
  · exact leaf j hj
termination_by sizeOf j
decreasing_by
  have hlt := List.sizeOf_lt_of_mem hx
  simp only [hitems, batch, obj.sizeOf_spec, arr.sizeOf_spec, List.cons.sizeOf_spec,
    Prod.mk.sizeOf_spec]
  omega

end Json

namespace DecodeError

theorem message_asCause {e : DecodeError} (h : ∀ cause, e ≠ .notJson cause) :
    e.asCause.message = e.message := by
  cases e with
  | notJson cause => exact absurd rfl (h cause)
  | untagged => rfl
  | malformed tag cause => rfl

theorem within_ne_notJson {e : DecodeError} (h : ∀ cause, e ≠ .notJson cause) (n : Nat)
    (cause : Cause) : e.within n ≠ .notJson cause := by
  cases n with
  | zero => exact h cause
  | succ n => simp [within]

def batchPrefix : String := "malformed 'initialize' indication: "

theorem malformedMessage_batchTag (text : String) :
    malformedMessage batchTag text = batchPrefix ++ text := by
  have hprefix : "malformed '" ++ batchTag ++ "' indication: " = batchPrefix := by decide
  rw [malformedMessage, hprefix]

theorem message_within {e : DecodeError} (h : ∀ cause, e ≠ .notJson cause) (n : Nat) :
    (e.within n).message = String.join (List.replicate n batchPrefix) ++ e.message := by
  induction n with
  | zero =>
    rw [List.replicate_zero, String.join_nil, String.empty_append]
    rfl
  | succ n ih =>
    have hcause := message_asCause (within_ne_notJson h n)
    calc
      (e.within (n + 1)).message = malformedMessage batchTag (e.within n).asCause.message := rfl
      _ = batchPrefix ++ (String.join (List.replicate n batchPrefix) ++ e.message) := by
        rw [malformedMessage_batchTag, hcause, ih]
      _ = String.join (List.replicate (n + 1) batchPrefix) ++ e.message := by
        rw [List.replicate_succ, String.join_cons, String.append_assoc]

end DecodeError

namespace Indication

def batched : Indication → List Indication
  | .notice _ => []
  | .batch members => members

def inside? (i : Indication) : List Nat → Option Indication
  | [] => some i
  | k :: path => i.batched[k]?.bind fun m => m.inside? path

theorem ofItems_ok_iff {xs : List Json} {is : List Indication} :
    ofItems xs = .ok is ↔ xs.map ofJson = is.map .ok := by
  induction xs generalizing is with
  | nil => cases is <;> simp [ofItems]
  | cons x xs ih =>
    rw [ofItems_cons_ok_iff]
    cases is with
    | nil => simp
    | cons i is => simp [ih, eq_comm]

theorem ofItems_error {xs : List Json} {e : DecodeError} (h : ofItems xs = .error e) :
    ∃ before x after, xs = before ++ x :: after ∧ (∀ y ∈ before, ∃ i, ofJson y = .ok i) ∧
      ofJson x = .error e := by
  induction xs with
  | nil => cases h
  | cons x xs ih =>
    cases hx : ofJson x with
    | error d =>
      simp only [ofItems, hx] at h
      cases h
      exact ⟨[], x, xs, rfl, by simp, hx⟩
    | ok i =>
      cases hxs : ofItems xs with
      | ok is =>
        simp only [ofItems, hx, hxs] at h
        cases h
      | error d =>
        simp only [ofItems, hx, hxs] at h
        cases h
        obtain ⟨before, y, after, rfl, hbefore, hy⟩ := ih hxs
        exact ⟨x :: before, y, after, rfl, List.forall_mem_cons.mpr ⟨⟨i, hx⟩, hbefore⟩, hy⟩

theorem ofItems_of_forall {xs : List Json} (h : ∀ x ∈ xs, ∃ i, ofJson x = .ok i) :
    ∃ is, ofItems xs = .ok is := by
  cases hxs : ofItems xs with
  | ok is => exact ⟨is, rfl⟩
  | error e =>
    obtain ⟨before, x, after, rfl, -, hx⟩ := ofItems_error hxs
    obtain ⟨i, hi⟩ := h x (by simp)
    cases hx.symm.trans hi

theorem ofItems_error_iff {xs : List Json} {e : DecodeError} :
    ofItems xs = .error e ↔ ∃ before x after, xs = before ++ x :: after ∧
      (∀ y ∈ before, ∃ i, ofJson y = .ok i) ∧ ofJson x = .error e := by
  constructor
  · exact ofItems_error
  · rintro ⟨before, x, after, rfl, hbefore, hx⟩
    obtain ⟨is, his⟩ := ofItems_of_forall hbefore
    exact ofItems_split_error his hx

theorem ofJson_batch_ok_iff {items : List Json} {i : Indication} :
    ofJson (.batch items) = .ok i ↔
      ∃ members, i = .batch members ∧ items.map ofJson = members.map .ok := by
  simp only [← ofItems_ok_iff, Json.batch, ofJson, ↓reduceIte]
  cases ofItems items <;> simp [eq_comm]

theorem ofJson_batch_error_iff {items : List Json} {e : DecodeError} :
    ofJson (.batch items) = .error e ↔
      ∃ d, ofItems items = .error d ∧ e = .malformed batchTag d.asCause := by
  simp only [Json.batch, ofJson, ↓reduceIte]
  cases ofItems items <;> simp [eq_comm]

theorem ofJson_leaf_ok {j : Json} {i : Indication} (hj : ¬j.IsBatch) (h : ofJson j = .ok i) :
    ∃ n, i = .notice n := by
  rcases ofJson_ok h with ⟨tag, body, -, -, hread⟩ | ⟨items, members, hbatch, -, -⟩
  · exact readNotice_ok hread
  · exact absurd ⟨items, hbatch⟩ hj

theorem map_ofJson_batched {j : Json} {i : Indication} (h : ofJson j = .ok i) :
    j.batched.map ofJson = i.batched.map .ok := by
  rcases ofJson_ok h with ⟨tag, body, rfl, htag, hread⟩ | ⟨items, members, rfl, hitems, rfl⟩
  · obtain ⟨n, rfl⟩ := readNotice_ok hread
    simp only [Json.batched_of_ne htag, batched, List.map_nil]
  · have hbatched := Json.batched_batch items
    rw [Json.batch] at hbatched
    rw [hbatched]
    exact ofItems_ok_iff.mp hitems

theorem map_ofJson_inside? {j : Json} {i : Indication} (h : ofJson j = .ok i) (path : List Nat) :
    (j.inside? path).map ofJson = (i.inside? path).map .ok := by
  induction path generalizing j i with
  | nil => simp only [Json.inside?, inside?, Option.map_some, h]
  | cons k path ih =>
    have hk : j.batched[k]?.map ofJson = i.batched[k]?.map .ok := by
      rw [← List.getElem?_map, map_ofJson_batched h, List.getElem?_map]
    rw [Json.inside?, inside?]
    cases hx : j.batched[k]? with
    | none =>
      rw [hx] at hk
      rw [Option.map_eq_none_iff.mp hk.symm]
      rfl
    | some x =>
      rw [hx] at hk
      obtain ⟨m, hm, hread⟩ := Option.map_eq_some_iff.mp hk.symm
      rw [hm]
      exact ih hread.symm

theorem ofJson_inside? {j x : Json} {i : Indication} {path : List Nat} (h : ofJson j = .ok i)
    (hx : j.inside? path = some x) : ∃ m, i.inside? path = some m ∧ ofJson x = .ok m := by
  have hmap := map_ofJson_inside? h path
  rw [hx] at hmap
  obtain ⟨m, hm, hread⟩ := Option.map_eq_some_iff.mp hmap.symm
  exact ⟨m, hm, hread.symm⟩

theorem inside?_unknown {j body : Json} {i : Indication} {path : List Nat} {t : String}
    (h : ofJson j = .ok i) (ht : t ∉ knownTags)
    (hpath : j.inside? path = some (.obj [(t, body)])) :
    i.inside? path = some (.notice (.other t body)) := by
  obtain ⟨m, hm, hread⟩ := ofJson_inside? h hpath
  rw [ofJson_unknown ht] at hread
  cases hread
  exact hm

def ReadsAt (j : Json) (path : List Nat) : Prop :=
  ∀ x, j.inside? path = some x → ¬x.IsBatch → ∃ n, ofJson x = .ok (.notice n)

theorem readsAt_of_ok {j : Json} {i : Indication} (h : ofJson j = .ok i) (path : List Nat) :
    ReadsAt j path := by
  intro x hx hleaf
  obtain ⟨m, -, hm⟩ := ofJson_inside? h hx
  obtain ⟨n, rfl⟩ := ofJson_leaf_ok hleaf hm
  exact ⟨n, hm⟩

structure FirstFault (j : Json) (path : List Nat) (d : DecodeError) : Prop where
  fault : ∃ x, j.inside? path = some x ∧ ¬x.IsBatch ∧ ofJson x = .error d
  before : ∀ place, List.Lex (· < ·) place path → ReadsAt j place

namespace FirstFault

variable {j : Json} {path : List Nat} {d : DecodeError}

theorem of_leaf (hj : ¬j.IsBatch) (h : ofJson j = .error d) : FirstFault j [] d := by
  constructor
  · exact ⟨j, rfl, hj, h⟩
  · intro place hplace
    cases hplace

theorem batch (h : FirstFault j path d) {before : List Json}
    (hbefore : ∀ y ∈ before, ∃ i, ofJson y = .ok i) (after : List Json) :
    FirstFault (.batch (before ++ j :: after)) (before.length :: path) d := by
  constructor
  · obtain ⟨x, hx, hleaf, herror⟩ := h.fault
    exact ⟨x, Json.inside?_batch.mpr ⟨j, by simp, hx⟩, hleaf, herror⟩
  · intro place hplace y hy hleaf
    cases hplace with
    | nil =>
      cases hy
      exact absurd ⟨_, rfl⟩ hleaf
    | rel hk =>
      obtain ⟨z, hz, hy⟩ := Json.inside?_batch.mp hy
      rw [List.getElem?_append_left hk] at hz
      obtain ⟨i, hi⟩ := hbefore z (List.mem_of_getElem? hz)
      exact readsAt_of_ok hi _ y hy hleaf
    | cons hplace =>
      obtain ⟨z, hz, hy⟩ := Json.inside?_batch.mp hy
      obtain rfl : j = z := by simpa using hz
      exact h.before _ hplace y hy hleaf

theorem not_readsAt (h : FirstFault j path d) : ¬ReadsAt j path := by
  intro hreads
  obtain ⟨x, hx, hleaf, herror⟩ := h.fault
  obtain ⟨n, hn⟩ := hreads x hx hleaf
  cases herror.symm.trans hn

theorem not_lex (h : FirstFault j path d) {place : List Nat} {c : DecodeError}
    (hplace : FirstFault j place c) : ¬List.Lex (· < ·) path place := by
  intro hlex
  exact h.not_readsAt (hplace.before path hlex)

theorem unique (h : FirstFault j path d) {place : List Nat} {c : DecodeError}
    (hplace : FirstFault j place c) : path = place ∧ d = c := by
  obtain rfl : path = place := List.le_antisymm (hplace.not_lex h) (h.not_lex hplace)
  obtain ⟨x, hx, -, herror⟩ := h.fault
  obtain ⟨y, hy, -, herror'⟩ := hplace.fault
  obtain rfl : x = y := Option.some.inj (hx.symm.trans hy)
  exact ⟨rfl, Except.error.inj (herror.symm.trans herror')⟩

theorem mem_knownTags (h : FirstFault j path d) {t : String} {body : Json}
    (ht : j.inside? path = some (.obj [(t, body)])) : t ∈ knownTags := by
  by_contra hunknown
  obtain ⟨x, hx, -, herror⟩ := h.fault
  obtain rfl : x = .obj [(t, body)] := Option.some.inj (hx.symm.trans ht)
  cases herror.symm.trans (ofJson_unknown hunknown body)

theorem ne_notJson (h : FirstFault j path d) (cause : Cause) : d ≠ .notJson cause := by
  obtain ⟨x, -, -, herror⟩ := h.fault
  rintro rfl
  exact ofJson_ne_notJson x cause herror

end FirstFault

theorem ofJson_error {j : Json} {e : DecodeError} (h : ofJson j = .error e) :
    ∃ path d, FirstFault j path d ∧ e = d.within path.length := by
  induction j using Json.batch_induction generalizing e with
  | leaf j hj => exact ⟨[], e, .of_leaf hj h, rfl⟩
  | step items ih =>
    obtain ⟨c, hitems, rfl⟩ := ofJson_batch_error_iff.mp h
    obtain ⟨before, x, after, rfl, hbefore, hx⟩ := ofItems_error hitems
    obtain ⟨path, d, hfault, rfl⟩ := ih x (by simp) hx
    exact ⟨before.length :: path, d, hfault.batch hbefore after, rfl⟩

theorem ofJson_ok_iff_readsAt (j : Json) :
    (∃ i, ofJson j = .ok i) ↔ ∀ path, ReadsAt j path := by
  constructor
  · rintro ⟨i, hi⟩
    exact readsAt_of_ok hi
  · intro h
    cases hj : ofJson j with
    | ok i => exact ⟨i, rfl⟩
    | error e =>
      obtain ⟨path, d, hfault, -⟩ := ofJson_error hj
      exact absurd (h path) hfault.not_readsAt

theorem ofJson_error_iff (j : Json) (e : DecodeError) : ofJson j = .error e ↔
    ∃ path d, FirstFault j path d ∧ e = d.within path.length := by
  constructor
  · exact ofJson_error
  · rintro ⟨path, d, hfault, rfl⟩
    cases hj : ofJson j with
    | ok i => exact absurd (readsAt_of_ok hj path) hfault.not_readsAt
    | error e =>
      obtain ⟨place, c, hplace, rfl⟩ := ofJson_error hj
      obtain ⟨rfl, rfl⟩ := hfault.unique hplace
      rfl

/-- A batch is read as the batch of what its members are read as, and fails as the first of them
that cannot be read. So at every depth: what stands at a place is read as what stands there in the
indication, and a message of an unknown tag is kept there as it is; a message can be read exactly
if every message in it that is no batch can; else its error is that of the first of these that
cannot be read, which is none of an unknown tag, with one prefix for each batch around it. -/
theorem ofJson_batches :
    (∀ items : List Json,
      (∀ i, ofJson (.batch items) = .ok i ↔
        ∃ members, i = .batch members ∧ items.map ofJson = members.map .ok) ∧
      ∀ e, ofJson (.batch items) = .error e ↔
        ∃ before x after d, items = before ++ x :: after ∧
          (∀ y ∈ before, ∃ i, ofJson y = .ok i) ∧ ofJson x = .error d ∧
          e = .malformed batchTag d.asCause ∧ d.asCause.message = d.message) ∧
    ∀ j : Json,
      (∀ i, ofJson j = .ok i → ∀ path,
        (j.inside? path).map ofJson = (i.inside? path).map .ok ∧
        ∀ t body, t ∉ knownTags → j.inside? path = some (.obj [(t, body)]) →
          i.inside? path = some (.notice (.other t body))) ∧
      ((∃ i, ofJson j = .ok i) ↔ ∀ path, ReadsAt j path) ∧
      (∀ e, ofJson j = .error e ↔ ∃ path d, FirstFault j path d ∧ e = d.within path.length) ∧
      ∀ path d, FirstFault j path d →
        (∀ t body, j.inside? path = some (.obj [(t, body)]) → t ∈ knownTags) ∧
        (d.within path.length).message =
          String.join (List.replicate path.length "malformed 'initialize' indication: ") ++
            d.message := by
  constructor
  · intro items
    constructor
    · intro i
      exact ofJson_batch_ok_iff
    · intro e
      rw [ofJson_batch_error_iff]
      constructor
      · rintro ⟨d, hitems, rfl⟩
        obtain ⟨before, x, after, rfl, hbefore, hx⟩ := ofItems_error_iff.mp hitems
        have hmessage : d.asCause.message = d.message := by
          apply DecodeError.message_asCause
          rintro cause rfl
          exact ofJson_ne_notJson x cause hx
        exact ⟨before, x, after, d, rfl, hbefore, hx, rfl, hmessage⟩
      · rintro ⟨before, x, after, d, rfl, hbefore, hx, rfl, -⟩
        exact ⟨d, ofItems_error_iff.mpr ⟨before, x, after, rfl, hbefore, hx⟩, rfl⟩
  · intro j
    refine ⟨?_, ofJson_ok_iff_readsAt j, ofJson_error_iff j, ?_⟩
    · intro i hi path
      constructor
      · exact map_ofJson_inside? hi path
      · intro t body ht hpath
        exact inside?_unknown hi ht hpath
    · intro path d hfault
      constructor
      · intro t body ht
        exact hfault.mem_knownTags ht
      · exact DecodeError.message_within hfault.ne_notJson path.length

theorem ofJson_batches_nested :
    let bell : Json := .obj [("bell", .obj [])]
    let sparkle : Json := .obj [("sparkle", .arr [])]
    let screen : Json := .obj [("screen", .null)]
    let i : Indication := .batch [.notice .bell, .batch [.notice (.other "sparkle" (.arr []))]]
    let d : DecodeError := .malformed "screen" .wrongType
    ofJson (.batch [bell, .batch [sparkle]]) = .ok i ∧ "sparkle" ∉ knownTags ∧
      i.inside? [1, 0] = some (.notice (.other "sparkle" (.arr []))) ∧
      FirstFault (.batch [bell, .batch [sparkle, screen, .null]]) [1, 1] d ∧
      ofJson (.batch [bell, .batch [sparkle, screen, .null]]) = .error (d.within 2) ∧
      (d.within 2).message = String.join (List.replicate 2 "malformed 'initialize' indication: ") ++
        "malformed 'screen' indication: invalid type" := by
  intro bell sparkle screen i d
  have hunknown : "sparkle" ∉ knownTags := by decide
  have hbell : ofJson bell = .ok (.notice .bell) := rfl
  have hsparkle : ofJson sparkle = .ok (.notice (.other "sparkle" (.arr []))) := rfl
  have hgood : ofJson (.batch [bell, .batch [sparkle]]) = .ok i := rfl
  have hplace := ((ofJson_batches.2 _).1 i hgood [1, 0]).2 "sparkle" (.arr []) hunknown rfl
  have hleaf : ¬screen.IsBatch := by
    rintro ⟨items, hitems⟩
    simp [screen, Json.batch] at hitems
  have hscreen : FirstFault screen [] d := .of_leaf hleaf rfl
  have hinner : FirstFault (.batch [sparkle, screen, .null]) [1] d := by
    have hbefore : ∀ y ∈ [sparkle], ∃ i, ofJson y = .ok i := by simp [hsparkle]
    exact hscreen.batch hbefore [.null]
  have hfault : FirstFault (.batch [bell, .batch [sparkle, screen, .null]]) [1, 1] d := by
    have hbefore : ∀ y ∈ [bell], ∃ i, ofJson y = .ok i := by simp [hbell]
    exact hinner.batch hbefore []
  have herror := ((ofJson_batches.2 _).2.2.1 (d.within 2)).mpr ⟨[1, 1], d, hfault, rfl⟩
  have hmessage := ((ofJson_batches.2 _).2.2.2 [1, 1] d hfault).2
  exact ⟨hgood, hunknown, hplace, hfault, herror, hmessage⟩

end Indication

end Display3270
