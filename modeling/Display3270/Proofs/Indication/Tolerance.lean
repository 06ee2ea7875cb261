import Display3270.Proofs.Indication.Shapes
import Display3270.Proofs.Indication.Tags
import Display3270.Proofs.Json.Replacing
import Display3270.Proofs.Leaves

namespace Display3270

open Record Reader

def Json.nest (x : Json) : List (List Json × List Json) → Json
  | [] => x
  | (before, after) :: levels => .obj [(batchTag, .arr (before ++ x.nest levels :: after))]

def DecodeError.within (e : DecodeError) : Nat → DecodeError
  | 0 => e
  | n + 1 => .malformed batchTag (e.within n).asCause

namespace Indication

def nest (i : Indication) : List (List Indication × List Indication) → Indication
  | [] => i
  | (before, after) :: levels => .batch (before ++ i.nest levels :: after)

def Surrounds (levels : List (List Json × List Json))
    (around : List (List Indication × List Indication)) : Prop :=
  List.Forall₂ (fun l a => ofItems l.1 = .ok a.1 ∧ ofItems l.2 = .ok a.2) levels around

theorem ofItems_congr {x y : Json} (h : ofJson x = ofJson y) (before after : List Json) :
    ofItems (before ++ x :: after) = ofItems (before ++ y :: after) := by
  induction before with
  | nil => simp only [List.nil_append, ofItems, h]
  | cons z zs ih => simp only [List.cons_append, ofItems, ih]

theorem ofItems_cons_ok_iff {x : Json} {xs : List Json} {is : List Indication} :
    ofItems (x :: xs) = .ok is ↔
      ∃ i rest, is = i :: rest ∧ ofJson x = .ok i ∧ ofItems xs = .ok rest := by
  constructor
  · exact ofItems_cons_ok
  · rintro ⟨i, rest, rfl, hi, hrest⟩
    simp only [ofItems, hi, hrest]

theorem ofItems_split_ok_iff {x : Json} {before after : List Json} {is : List Indication} :
    ofItems (before ++ x :: after) = .ok is ↔
      ∃ bs i as, is = bs ++ i :: as ∧ ofItems before = .ok bs ∧ ofJson x = .ok i ∧
        ofItems after = .ok as := by
  induction before generalizing is with
  | nil =>
    rw [List.nil_append, ofItems_cons_ok_iff]
    constructor
    · rintro ⟨i, as, rfl, hi, has⟩
      exact ⟨[], i, as, rfl, rfl, hi, has⟩
    · rintro ⟨bs, i, as, rfl, hbs, hi, has⟩
      cases hbs
      exact ⟨i, as, rfl, hi, has⟩
  | cons z zs ih =>
    rw [List.cons_append, ofItems_cons_ok_iff]
    constructor
    · rintro ⟨j, rest, rfl, hj, hrest⟩
      obtain ⟨bs, i, as, rfl, hbs, hi, has⟩ := ih.mp hrest
      exact ⟨j :: bs, i, as, rfl, ofItems_cons_ok_iff.mpr ⟨j, bs, rfl, hj, hbs⟩, hi, has⟩
    · rintro ⟨bs, i, as, rfl, hbs, hi, has⟩
      obtain ⟨j, bs, rfl, hj, hbs⟩ := ofItems_cons_ok hbs
      exact ⟨j, bs ++ i :: as, rfl, hj, ih.mpr ⟨bs, i, as, rfl, hbs, hi, has⟩⟩

theorem ofJson_nest_congr {x y : Json} (h : ofJson x = ofJson y)
    (levels : List (List Json × List Json)) : ofJson (x.nest levels) = ofJson (y.nest levels) := by
  induction levels with
  | nil => exact h
  | cons level levels ih =>
    obtain ⟨before, after⟩ := level
    simp only [Json.nest, ofJson, ofItems_congr ih, ↓reduceIte]

theorem ofJson_nest {x : Json} {i : Indication} (h : ofJson x = .ok i)
    {levels : List (List Json × List Json)} {around : List (List Indication × List Indication)}
    (hlevels : Surrounds levels around) : ofJson (x.nest levels) = .ok (i.nest around) := by
  induction hlevels with
  | nil => exact h
  | cons hlevel hrest ih =>
    obtain ⟨hbefore, hafter⟩ := hlevel
    have hitems := ofItems_split_ok_iff.mpr ⟨_, _, _, rfl, hbefore, ih, hafter⟩
    simp only [Json.nest, ofJson, hitems, ↓reduceIte]
    rfl

theorem ofItems_split_error {x : Json} {before after : List Json} {bs : List Indication}
    {e : DecodeError} (hbefore : ofItems before = .ok bs) (h : ofJson x = .error e) :
    ofItems (before ++ x :: after) = .error e := by
  induction before generalizing bs with
  | nil => simp only [List.nil_append, ofItems, h]
  | cons z zs ih =>
    obtain ⟨j, rest, -, hj, hrest⟩ := ofItems_cons_ok hbefore
    simp only [List.cons_append, ofItems, hj, ih hrest]

theorem ofJson_nest_error {x : Json} {e : DecodeError} (h : ofJson x = .error e)
    {levels : List (List Json × List Json)} {around : List (List Indication × List Indication)}
    (hlevels : Surrounds levels around) :
    ofJson (x.nest levels) = .error (e.within levels.length) := by
  induction hlevels with
  | nil => exact h
  | cons hlevel hrest ih =>
    simp only [Json.nest, ofJson, ofItems_split_error hlevel.1 ih, ↓reduceIte]
    rfl

theorem ofJson_nest_ok {x : Json} {levels : List (List Json × List Json)} {j : Indication}
    (h : ofJson (x.nest levels) = .ok j) :
    ∃ around i, Surrounds levels around ∧ ofJson x = .ok i ∧ j = i.nest around := by
  induction levels generalizing j with
  | nil => exact ⟨[], j, .nil, h, rfl⟩
  | cons level levels ih =>
    obtain ⟨before, after⟩ := level
    rcases ofJson_ok h with ⟨tag, body, hobj, htag, -⟩ | ⟨items, members, hobj, hitems, rfl⟩
    · cases hobj
      exact absurd rfl htag
    · cases hobj
      obtain ⟨bs, i, as, rfl, hbs, hi, has⟩ := ofItems_split_ok_iff.mp hitems
      obtain ⟨around, i, haround, hx, rfl⟩ := ih hi
      exact ⟨(bs, as) :: around, i, .cons ⟨hbs, has⟩ haround, hx, rfl⟩

end Indication

theorem rel_lookup {α β : Type} {R : α → β → Prop} {xs : List (String × α)}
    {ys : List (String × β)} (h : List.Forall₂ (fun x y => x.1 = y.1 ∧ R x.2 y.2) xs ys)
    (k : String) : Option.Rel R (xs.lookup k) (ys.lookup k) := by
  induction h with
  | nil => exact .none
  | @cons x y xs ys hxy _ ih =>
    obtain ⟨key, a⟩ := x
    obtain ⟨key', b⟩ := y
    obtain ⟨rfl, hab⟩ := hxy
    rw [lookup_cons_ite, lookup_cons_ite]
    by_cases hk : k = key
    · rw [if_pos hk, if_pos hk]
      exact .some hab
    · rw [if_neg hk, if_neg hk]
      exact ih

theorem Notice.lookup_shapes {tag : String} (h : tag ∈ knownTags) (hbatch : tag ≠ batchTag) :
    ∃ s, shapes.lookup tag = some s := by
  obtain ⟨r, hr⟩ := ((mem_knownTags_iff tag).mp h).resolve_left hbatch
  have hnames : readers.map Prod.fst = shapes.map Prod.fst := rfl
  have hmem : tag ∈ shapes.map Prod.fst := by
    rw [← hnames]
    exact List.mem_map_of_mem hr
  obtain ⟨f, hf, rfl⟩ := List.mem_map.mp hmem
  apply Option.ne_none_iff_exists'.mp
  intro hnone
  have hne := List.lookup_eq_none_iff.mp hnone f hf
  simp at hne

theorem Indication.ofJson_grows {tag : String} {s : Shape} (hs : Notice.shapes.lookup tag = some s)
    {x y : Json} (h : Grows s x y) : ofJson (.obj [(tag, x)]) = ofJson (.obj [(tag, y)]) := by
  have hrel := rel_lookup Notice.fits_readers tag
  rw [hs] at hrel
  generalize hr : Notice.readers.lookup tag = reader at hrel
  cases hrel with
  | some hfits => rw [ofJson_read hr, ofJson_read hr, hfits .value x y h]

section OpenFields

theorem Reader.named_str {α : Type} (table : List (String × α)) (other : α) (o : Origin)
    (text : String) : named table (some other) o (.str text) =
      .ok ((table.lookup text).getD other) := by
  cases h : table.lookup text <;> simp [named, choice, h]

def ConnectionState.ofName (text : String) : ConnectionState := (names.lookup text).getD .unknown

def ActionCause.ofName (text : String) : ActionCause := (names.lookup text).getD .unknown

variable (text : String)

theorem Connection.sets_state :
    Connection.reader.Sets ["state", "host", "cause"] "state" (.str text)
      fun c => { c with state := .ofName text } := by
  refine Updates.reader ?_ Flat.checked (by decide) (by decide)
  intro o absent find c h
  obtain ⟨g, hg, cause, hcause, rfl⟩ := build_seq_ok.mp h
  obtain ⟨g', hg', host, hhost, rfl⟩ := build_seq_ok.mp hg
  obtain ⟨state, -, rfl⟩ := build_map_ok.mp hg'
  refine build_seq_ok.mpr ⟨_, build_seq_ok.mpr ⟨_, build_map_ok.mpr ⟨.ofName text, ?_, rfl⟩, host,
    ?_, rfl⟩, cause, ?_, rfl⟩
  · rw [required, build_field_update]
    exact named_str _ _ o text
  · rw [build_update_of_notMem o absent find (.str text) (by decide)]
    exact hhost
  · rw [build_update_of_notMem o absent find (.str text) (by decide)]
    exact hcause

theorem ActionCause.reads_name (o : Origin) :
    ActionCause.reader.option o (Draft.ofJson (.str text)) = .ok (some (.ofName text)) := by
  have hname := named_str ActionCause.names .unknown o text
  exact congrArg (Except.map some) hname

theorem Connection.sets_cause :
    Connection.reader.Sets ["state", "host", "cause"] "cause" (.str text)
      fun c => { c with cause := some (.ofName text) } := by
  refine Updates.reader (updates_last ?_ (ActionCause.reads_name text) ?_) Flat.checked
    (by decide) (by decide)
  · decide
  · intro s g a hg
    obtain ⟨g', hg', host, -, rfl⟩ := build_seq_ok.mp hg
    obtain ⟨state, -, rfl⟩ := build_map_ok.mp hg'
    rfl

theorem Setting.sets_cause :
    Setting.reader.Sets ["name", "value", "cause"] "cause" (.str text)
      fun s => { s with cause := some (.ofName text) } := by
  refine Updates.reader (updates_last ?_ (ActionCause.reads_name text) ?_) Flat.checked
    (by decide) (by decide)
  · decide
  · intro s g a hg
    obtain ⟨g', hg', value, -, rfl⟩ := build_seq_ok.mp hg
    obtain ⟨name, -, rfl⟩ := build_map_ok.mp hg'
    rfl

theorem FileTransfer.sets_cause :
    FileTransfer.reader.Sets [] "cause" (.str text) fun t => { t with cause := .ofName text } := by
  have hupdates : (required "cause" ActionCause.reader).Updates "cause" (.str text)
      fun _ => .ofName text := by
    intro o absent find c h
    rw [required, build_field_update]
    exact named_str ActionCause.names .unknown o text
  intro o x y t hxy h
  cases hxy with
  | place before after x hplace => cases hplace
  | member before after x =>
    simp only [Draft.ofJson, reader, bind_eq_ok_iff] at h ⊢
    obtain ⟨cause, hcause, state, hstate, ht⟩ := h
    cases ht
    have hread := hupdates.readObject Flat.checked (by decide) hcause
    have htag : (before ++ ("cause", .str text) :: after).lookup FileTransferState.tagField =
        (before ++ ("cause", x) :: after).lookup FileTransferState.tagField :=
      lookup_replace_of_ne (by decide) (.str text) before after
    have hfields := FileTransferState.cause_notMem_fieldNames (before ++ ("cause", x) :: after)
    have hsame := FileTransferState.read_congr htag
      (.replace (by simpa using hfields) x (.str text) before after)
    exact ⟨.ofName text, hread, state, hsame.trans hstate, rfl⟩

end OpenFields

namespace Notice

def withText (name text : String) : Notice → Notice
  | .connection c =>
    .connection (if name = "state" then { c with state := .ofName text }
      else { c with cause := some (.ofName text) })
  | .setting s => .setting { s with cause := some (.ofName text) }
  | .fileTransfer t => .fileTransfer { t with cause := .ofName text }
  | n => n

def openFields : List (String × List String × String) :=
  [("connection", ["state", "host", "cause"], "state"),
    ("connection", ["state", "host", "cause"], "cause"),
    ("setting", ["name", "value", "cause"], "cause"),
    ("ft", [], "cause")]

theorem sets_map {α : Type} {r : Reader α} {names : List String} {name : String} {y : Json}
    {set : α → α} (h : r.Sets names name y set) {f : α → Notice} {g : Notice → Notice}
    (hf : ∀ a, g (f a) = f (set a)) : (r.map f).Sets names name y g := by
  intro o j j' n hj hn
  obtain ⟨a, ha, rfl⟩ := map_eq_ok hn
  rw [hf, Reader.map, h o j j' a hj ha]
  rfl

theorem sets_openFields (text : String) : ∀ f ∈ openFields, ∃ r,
    readers.lookup f.1 = some r ∧ r.Sets f.2.1 f.2.2 (.str text) (withText f.2.2 text) := by
  simp only [openFields, List.forall_mem_cons]
  refine ⟨⟨_, rfl, ?_⟩, ⟨_, rfl, ?_⟩, ⟨_, rfl, ?_⟩, ⟨_, rfl, ?_⟩, List.forall_mem_nil _⟩
  · exact sets_map (Connection.sets_state text) fun _ => rfl
  · exact sets_map (Connection.sets_cause text) fun _ => rfl
  · exact sets_map (Setting.sets_cause text) fun _ => rfl
  · exact sets_map (FileTransfer.sets_cause text) fun _ => rfl

end Notice

namespace OiaField

def knownFields : List String :=
  ["compose", "insert", "lock", "lu", "not-undera", "reverse-input", "screen-trace", "script",
    "timing", "typeahead"]

theorem record_unknown {tag : String} (h : tag ∉ knownFields) : record tag = pure .unknown := by
  unfold record
  split
  case h_11 => rfl
  all_goals exact absurd (by decide) h

theorem readObject_pure {α : Type} (a : α) (o : Origin) (ms : List (String × Json)) :
    (pure a : Record α).readObject o (Draft.ofMembers ms) none = .ok a := by
  have hcheck : (pure a : Record α).checkMembers o [] (Draft.ofMembers ms) = .ok () := by
    induction ms with
    | nil => rfl
    | cons m ms ih =>
      have hnone : (pure a : Record α).field? m.1 = none := rfl
      simp only [Draft.ofMembers, checkMembers, hnone, Draft.skip_ofJson]
      exact ih
  rw [readObject_ofMembers, hcheck]
  rfl

theorem reader_unknown {tag : String} (htag : tag ∉ knownFields) {ms : List (String × Json)}
    (h : ms.lookup tagField = some (.str tag)) (o : Origin) :
    reader o (Draft.ofJson (.obj ms)) = .ok .unknown := by
  simp only [Draft.ofJson, reader, Draft.findMember_ofMembers, h, Option.map_some, string, bind,
    Except.bind, record_unknown htag]
  exact readObject_pure _ .buffer ms

end OiaField

namespace Session

theorem dispatch_unknown (s : Session) :
    s.dispatch (.notice (.oia .unknown)) = ⟨s, [], .ok ()⟩ := rfl

theorem dispatchEach_unknown (s : Session) (before after : List Notice) :
    s.dispatchEach (before ++ .oia .unknown :: after) = s.dispatchEach (before ++ after) := by
  rw [dispatchEach_append, dispatchEach_append]
  rcases s.dispatchEach before with ⟨t, events, e | ⟨⟩⟩
  · rfl
  · simp only [dispatchEach_cons_ok t.dispatch_unknown, List.nil_append]

end Session

namespace Indication

/-- A message of a newer host is still understood, however deep it is in batches. A member that no
record names changes nothing of what is read; a new text for an open-ended state or cause changes
only that field; a new part of the information area is read as one that is unknown, which changes
nothing. -/
theorem ofJson_tolerates :
    (∀ tag ∈ knownTags, tag ≠ batchTag → ∃ s, Notice.shapes.lookup tag = some s ∧
        ∀ x y, Grows s x y → ∀ levels, ofJson ((Json.obj [(tag, x)]).nest levels) =
          ofJson ((Json.obj [(tag, y)]).nest levels)) ∧
      (∀ tag names name, (tag, names, name) ∈ Notice.openFields →
        ∀ text x y, Replaces names name (.str text) x y → ∀ levels i,
          ofJson ((Json.obj [(tag, x)]).nest levels) = .ok i →
            ∃ around n, Surrounds levels around ∧ ofJson (.obj [(tag, x)]) = .ok (notice n) ∧
              i = (notice n).nest around ∧
              ofJson ((Json.obj [(tag, y)]).nest levels) =
                .ok ((notice (n.withText name text)).nest around)) ∧
      ∀ field ∉ OiaField.knownFields, ∀ ms : List (String × Json),
        ms.lookup OiaField.tagField = some (.str field) →
          (∀ levels around, Surrounds levels around →
            ofJson ((Json.obj [("oia", .obj ms)]).nest levels) =
              .ok ((notice (.oia .unknown)).nest around)) ∧
          ∀ (s : Session) (i : Indication) (before after : List Notice),
            i.leaves = before ++ .oia .unknown :: after →
              s.dispatch i = s.dispatchEach (before ++ after) := by
  refine ⟨?_, ?_, ?_⟩
  · intro tag htag hbatch
    obtain ⟨s, hs⟩ := Notice.lookup_shapes htag hbatch
    refine ⟨s, hs, ?_⟩
    intro x y hxy levels
    exact ofJson_nest_congr (ofJson_grows hs hxy) levels
  · intro tag names name hopen text x y hxy levels i hi
    obtain ⟨around, j, haround, hj, rfl⟩ := ofJson_nest_ok hi
    obtain ⟨r, hr, hsets⟩ := Notice.sets_openFields text _ hopen
    obtain ⟨n, hn, rfl⟩ := ofJson_read_ok hr hj
    have hset := hsets .value x y n hxy hn
    refine ⟨around, n, haround, hj, rfl, ofJson_nest ?_ haround⟩
    simp only [ofJson_read hr, hset]
  · intro field hfield ms hms
    constructor
    · intro levels around haround
      apply ofJson_nest _ haround
      have hreader : Notice.readers.lookup "oia" = some (OiaField.reader.map .oia) := rfl
      simp only [ofJson_read hreader, Reader.map, OiaField.reader_unknown hfield hms, Except.map]
    · intro s i before after hi
      rw [s.dispatch_eq_dispatchEach, hi, s.dispatchEach_unknown]

theorem ofJson_tolerates_newer :
    let levels : List (List Json × List Json) := [([.obj [("bell", .obj [])]], []), ([], [])]
    let change : List (String × Json) := [("column", .natural 1), ("text", .str "A")]
    let row (members : List (String × Json)) : Json :=
      .obj [("changes", .arr [.obj members]), ("row", .natural 1)]
    let update (members : List (String × Json)) : Json :=
      .obj [("screen", .obj [("rows", .arr [row members])])]
    let connection (state : String) : Json := .obj [("connection", .obj [("state", .str state)])]
    let oia : List (String × Json) := [("field", .str "weather"), ("value", .null)]
    ofJson ((update change).nest levels) =
        ofJson ((update (insertEntry "blink" (.bool true) change)).nest levels) ∧
      (∃ around n, Surrounds levels around ∧ ofJson (connection "resolving") = .ok (notice n) ∧
        batch [notice .bell, batch [notice (.connection ⟨.resolving, none, none⟩)]] =
          (notice n).nest around ∧
        ofJson ((connection "asleep").nest levels) =
          .ok ((notice (n.withText "state" "asleep")).nest around)) ∧
      ofJson (.obj [("oia", .obj oia)]) = .ok (notice (.oia .unknown)) := by
  intro levels change row update connection oia
  obtain ⟨hgrows, hset, hunknown⟩ := ofJson_tolerates
  refine ⟨?_, ?_, ?_⟩
  · obtain ⟨s, hs, hsame⟩ := hgrows "screen" (by decide) (by decide)
    obtain rfl : ScreenUpdate.shape = s := Option.some.inj hs
    have hchange : Grows (.flat fun _ => Change.fieldNames) (.obj change)
        (.obj (insertEntry "blink" (.bool true) change)) := .insertFlat _ _ (by decide)
    have hrow : Grows RowChanges.shape (row change)
        (row (insertEntry "blink" (.bool true) change)) :=
      .member [] _ (.tail _ (.head _)) (.item [] [] hchange)
    exact hsame _ _ (.member [] [] (.tail _ (.head _)) (.item [] [] hrow)) levels
  · have hreplaces : Replaces ["state", "host", "cause"] "state" (.str "asleep")
        (.obj [("state", .str "resolving")]) (.obj [("state", .str "asleep")]) := .member [] [] _
    exact hset "connection" _ "state" (.head _) "asleep" _ _ hreplaces levels _ rfl
  · exact (hunknown "weather" (by decide) oia rfl).1 [] [] .nil

end Indication

end Display3270
