import Display3270.Proofs.Indication.Tags
import Display3270.Proofs.Json.Floats
import Display3270.Proofs.Json.Texts

namespace Display3270

open Record Reader

def Binary.value {w : Width} : Binary w → ℚ
  | .nan => 0
  | .signed negative m => if negative then -Binary.worth w m else Binary.worth w m

def Number.value : Number → ℚ
  | .int n => n
  | .double x => x.value
  | .single x => x.value

theorem Binary.abs_value {w : Width} (negative : Bool) (m : Nat) :
    |(Binary.signed negative m : Binary w).value| = Binary.worth w m := by
  cases negative <;> simp [Binary.value, abs_of_nonneg (Binary.worth_nonneg w m)]

namespace Reader

theorem single_isFinite_iff {n : Number} (hn : n.Fits) {o : Origin} {x : Single}
    (h : single o (Draft.ofJson (.num n)) = .ok x) :
    x.isFinite ↔ |n.value| < 2 ^ 128 - 2 ^ 103 := by
  rw [← Binary.limit_single]
  cases n with
  | int n =>
    cases h
    have hrounds := Binary.roundMagnitude_rounds (w := .single) one_pos n.natAbs
    rw [Nat.cast_one, div_one, Nat.cast_natAbs, Int.cast_abs] at hrounds
    simp only [Binary.ofInt, Binary.ofRatio, Binary.isFinite, decide_eq_true_eq, Number.value]
    exact hrounds.lt_infinity_iff (by decide) (by decide)
  | double y =>
    cases h
    cases y with
    | nan => cases hn
    | signed s m =>
      obtain ⟨k, hk, hrounds⟩ := Binary.convert_rounds (v := .single) (of_decide_eq_true hn) s
      rw [hk, Number.value, Binary.abs_value, Binary.isFinite, decide_eq_true_eq]
      exact hrounds.lt_infinity_iff (by decide) (by decide)
  | single y => cases hn

theorem single_number {j : Json} {o : Origin} {x : Single}
    (h : single o (Draft.ofJson j) = .ok x) : ∃ n, j = .num n := by
  cases j with
  | num n => exact ⟨n, rfl⟩
  | _ => cases h

theorem single_double (y : Double) : single.Reads (.num (.double y)) y.convert := fun _ => rfl

theorem double_finite {j : Json} (hj : j.Canonical) {o : Origin} {x : Double}
    (h : double o (Draft.ofJson j) = .ok x) : x.isFinite := by
  cases hj with
  | @num n hn =>
    cases n with
    | int n =>
      cases h
      apply Numeral.isFinite_ofInt
      simp only [Number.Fits, Nat.pow_eq] at hn
      omega
    | double y =>
      cases h
      exact hn
    | single y => cases hn
  | _ => cases h

end Reader

namespace Record

variable {α : Type} {r : Record α} {o : Origin} {seen : List String} {k : String} {f : Field}
  {d : Draft}

theorem checkMembers_pass (hf : r.field? k = some f) (hseen : k ∉ seen)
    (hd : f.check o d = .ok ()) (ms : List (Option String × Draft)) :
    r.checkMembers o seen ((some k, d) :: ms) = r.checkMembers o (k :: seen) ms := by
  simp [checkMembers, hf, hseen, hd, bind, Except.bind]

theorem checkMembers_stop {c : Cause} (hf : r.field? k = some f) (hseen : k ∉ seen)
    (hd : f.check o d = .error c) (ms : List (Option String × Draft)) :
    r.checkMembers o seen ((some k, d) :: ms) = .error c := by
  simp [checkMembers, hf, hseen, hd, bind, Except.bind]

end Record

namespace RunResult

theorem time_finite {body : Json} (hbody : body.Canonical) {o : Origin} {r : RunResult}
    (h : reader o (Draft.ofJson body) = .ok r) : r.time.isFinite := by
  obtain ⟨-, find, absent, hinside, hbuild⟩ := build_of_reader h
  obtain ⟨_, hfour, time, htime, rfl⟩ := build_seq_ok.mp hbuild
  obtain ⟨_, hthree, abort, -, rfl⟩ := build_seq_ok.mp hfour
  obtain ⟨_, htwo, text, -, rfl⟩ := build_seq_ok.mp hthree
  obtain ⟨_, hone, success, -, rfl⟩ := build_seq_ok.mp htwo
  obtain ⟨rTag, -, rfl⟩ := build_map_ok.mp hone
  obtain ⟨-, hmissing⟩ | ⟨x, hx, hread⟩ := field_ok htime
  · cases hmissing
  · exact double_finite ((hinside "time" x hx).canonical hbody) hread

def plainMembers (r : RunResult) : List (String × Json) :=
  Json.member? "r-tag" .str r.rTag ++ [("success", .bool r.success)] ++
    Json.items? "text" .str r.text ++ Json.member? "abort" .bool r.abort

theorem plainMembers_print (r : RunResult) : Json.MembersPrint 1 r.plainMembers := by
  simp [plainMembers, Json.prints_arr_map (Json.prints_str 0)]

theorem reads_json {r : RunResult} (h : r.time.isFinite) : reader.Reads r.json r := by
  have hdouble : double.Reads (.double r.time) r.time := by
    intro o
    rw [Json.double_eq h]
    rfl
  have hfinds : (mk <$> Record.optional "r-tag" string <*> required "success" Reader.bool <*>
      defaulted "text" (list string) [] <*> Record.optional "abort" Reader.bool <*>
      required "time" double).Finds (r.plainMembers ++ [("time", .double r.time)]) r := by
    refine .seq (.seq (.seq (.seq (.map (finds_optional string_carries ?_) _)
      (finds_required bool_carries ?_)) (finds_items string_carries ?_))
      (finds_optional bool_carries ?_)) (finds_field hdouble ?_)
    all_goals simp [plainMembers]
  exact fun o => hfinds.readObject o

theorem readAs_json {r : RunResult} (h : r.time.isFinite) :
    ∃ y : Double, y.isFinite ∧ r.json.ReadAs { r with time := y }.json := by
  obtain ⟨y, hy, hread⟩ := Json.readAs_double h
  exact ⟨y, hy, .obj ((plainMembers_print r).readAs.append (.cons "time" hread .nil))⟩

theorem depth_json (r : RunResult) : r.json.depth ≤ 2 := by
  apply Nat.succ_le_succ
  rw [Json.memberDepth_le_iff]
  intro m hm
  rcases List.mem_append.mp hm with hm | hm
  · exact (plainMembers_print r m hm).2
  · obtain rfl := List.mem_singleton.mp hm
    simp only [Json.double]
    split <;> exact Nat.zero_le 1

end RunResult

namespace Thumb

def members (t : Thumb) (top shown : Json) : List (String × Json) :=
  [("top", top), ("shown", shown), ("saved", Json.longWord t.saved),
    ("screen", Json.longWord t.screen), ("back", Json.longWord t.back)]

theorem readAs_members (t : Thumb) {a b c d : Json} (ha : a.ReadAs c) (hb : b.ReadAs d) :
    (Json.obj (t.members a b)).ReadAs (.obj (t.members c d)) := by
  have hrest : Json.MembersPrint 0 [("saved", Json.longWord t.saved),
      ("screen", Json.longWord t.screen), ("back", Json.longWord t.back)] := by simp
  exact .obj (.cons "top" ha (.cons "shown" hb hrest.readAs))

theorem reads_members (t : Thumb) {a b : Json} {x y : Single} (ha : single.Reads a x)
    (hb : single.Reads b y) :
    reader.Reads (.obj (t.members a b)) { t with top := x, shown := y } := by
  have hfinds : (mk <$> required "top" single <*> required "shown" single <*>
      required "saved" uint64 <*> required "screen" uint64 <*> required "back" uint64).Finds
      (t.members a b) { t with top := x, shown := y } := by
    refine .seq (.seq (.seq (.seq (.map (finds_field ha ?_) _) (finds_field hb ?_))
      (finds_required uint64_carries ?_)) (finds_required uint64_carries ?_))
      (finds_required uint64_carries ?_)
    all_goals simp [members]
  exact fun o => hfinds.readObject o

theorem depth_members (t : Thumb) {a b : Json} (ha : a.depth = 0) (hb : b.depth = 0) :
    (Json.obj (t.members a b)).depth = 1 := by
  simp [members, Json.depth, Json.memberDepth, ha, hb, Json.longWord, Json.natural]

def fieldNames : List String := ["top", "shown", "saved", "screen", "back"]

theorem held_numbers {body : Json} (hbody : body.Canonical) {o : Origin} {t : Thumb}
    (h : reader o (Draft.ofJson body) = .ok t) :
    ∃ top shown, body.held fieldNames "top" = some (.num top) ∧
      body.held fieldNames "shown" = some (.num shown) ∧
      (t.top.isFinite ↔ |top.value| < 2 ^ 128 - 2 ^ 103) ∧
      (t.shown.isFinite ↔ |shown.value| < 2 ^ 128 - 2 ^ 103) := by
  have hnumber {name : String} {absent : String → Cause} {x : Single}
      (h : (required name single).build (.of o absent (body.held fieldNames)) = .ok x) :
      ∃ n : Number, body.held fieldNames name = some (.num n) ∧
        (x.isFinite ↔ |n.value| < 2 ^ 128 - 2 ^ 103) := by
    obtain ⟨-, hmissing⟩ | ⟨y, hy, hread⟩ := field_ok h
    · cases hmissing
    · obtain ⟨n, rfl⟩ := single_number hread
      cases (Json.held_inside hy).canonical hbody with
      | num hn => exact ⟨n, hy, single_isFinite_iff hn hread⟩
  obtain ⟨-, absent, hbuild⟩ := build_held h
  obtain ⟨_, hfour, back, -, rfl⟩ := build_seq_ok.mp hbuild
  obtain ⟨_, hthree, screen, -, rfl⟩ := build_seq_ok.mp hfour
  obtain ⟨_, htwo, saved, -, rfl⟩ := build_seq_ok.mp hthree
  obtain ⟨_, hone, shown, hshown, rfl⟩ := build_seq_ok.mp htwo
  obtain ⟨top, htop, rfl⟩ := build_map_ok.mp hone
  obtain ⟨a, ha, hafinite⟩ := hnumber htop
  obtain ⟨b, hb, hbfinite⟩ := hnumber hshown
  exact ⟨a, b, ha, hb, hafinite, hbfinite⟩

theorem normal_members (t : Thumb) (a b : Json) :
    (Json.obj (t.members a b)).normal =
      .obj [("back", Json.longWord t.back), ("saved", Json.longWord t.saved),
        ("screen", Json.longWord t.screen), ("shown", b.normal), ("top", a.normal)] := by
  simp +decide only [members, Json.normal, Json.normalMembers, sortEntries, List.foldl_cons,
    List.foldl_nil, insertEntry, Json.longWord, Json.natural, ↓reduceIte]

theorem refuses_null (t : Thumb) {a b : Json}
    (h : b = .null ∨ (∃ y, single.Reads b y) ∧ a = .null) :
    reader .value (Draft.ofJson (Json.obj (t.members a b)).normal) = .error .wrongType := by
  let r : Record Thumb := mk <$> required "top" single <*> required "shown" single <*>
    required "saved" uint64 <*> required "screen" uint64 <*> required "back" uint64
  have hword (w : UInt64) :
      (uint64 .value (Draft.ofJson (Json.longWord w))).map (fun _ => ()) = .ok () := by
    have hread : uint64 .value (Draft.ofJson (Json.longWord w)) = .ok w :=
      uint64_carries.reads w .value
    rw [hread]
    rfl
  have hcheck : r.checkMembers .value []
      (Draft.ofMembers [("back", Json.longWord t.back), ("saved", Json.longWord t.saved),
        ("screen", Json.longWord t.screen), ("shown", b.normal), ("top", a.normal)]) =
      .error .wrongType := by
    simp only [Draft.ofMembers]
    rw [checkMembers_pass (r := r) rfl (by simp) (hword t.back),
      checkMembers_pass (r := r) rfl (by simp) (hword t.saved),
      checkMembers_pass (r := r) rfl (by simp) (hword t.screen)]
    rcases h with rfl | ⟨⟨y, hb⟩, rfl⟩
    · exact checkMembers_stop (r := r) rfl (by simp) rfl _
    · have hshown : (single .value (Draft.ofJson b.normal)).map (fun _ => ()) = .ok () := by
        rw [hb .value]
        rfl
      rw [checkMembers_pass (r := r) rfl (by simp) hshown]
      exact checkMembers_stop (r := r) rfl (by simp) rfl _
  rw [normal_members]
  change r.readObject .value _ none = _
  rw [readObject, hcheck]
  rfl

end Thumb

namespace Indication

theorem decode_tagged (tag : String) {x y : Json} (h : x.ReadAs y)
    (hdepth : y.depth < Draft.depthLimit) :
    decode (Json.obj [(tag, x)]).compact = ofJson (.obj [(tag, y.normal)]) := by
  have hparse := Json.parse_compact (.obj (.cons tag h .nil))
    (by rw [Json.depth_single]; exact hdepth)
  rw [decode, hparse, Json.normal_single]

theorem ofJson_notice {j : Json} {n : Notice} {r : Reader Notice}
    (hr : Notice.readers.lookup n.tag = some r) (h : ofJson j = .ok (.notice n)) :
    ∃ body, j = .obj [(n.tag, body)] ∧ r .value (Draft.ofJson body) = .ok n := by
  obtain ⟨before, after, hreaders, -⟩ := List.lookup_eq_some_iff.mp hr
  rcases ofJson_ok h with ⟨tag, body, rfl, -, hread⟩ | ⟨items, members, -, -, hbatch⟩
  · rcases readNotice_eq_ok_iff.mp hread with ⟨hunknown, hn⟩ | ⟨-, s, m, hs, hm, hn⟩
    · cases hn
      have hknown := (Notice.mem_knownTags_iff tag).mpr (.inr ⟨r, by simp [hreaders, Notice.tag]⟩)
      exact absurd hknown hunknown
    · cases hn
      obtain ⟨before', after', hreaders', -⟩ := List.lookup_eq_some_iff.mp hs
      obtain ⟨rfl, -⟩ := Notice.names_readers (tag, s) (by simp [hreaders']) .value _ n hm
      obtain rfl := Option.some.inj (hr.symm.trans hs)
      exact ⟨body, rfl, hm⟩
  · cases hbatch

theorem decode_notice {text : String} {n : Notice} {r : Reader Notice}
    (hr : Notice.readers.lookup n.tag = some r) (h : decode text = .ok (.notice n)) :
    ∃ body, Json.parse text = .ok (.obj [(n.tag, body)]) ∧ body.Canonical ∧
      r .value (Draft.ofJson body) = .ok n := by
  obtain ⟨j, hj, hi⟩ := (decode_eq_ok_iff text _).mp h
  obtain ⟨body, rfl, hread⟩ := ofJson_notice hr hi
  obtain ⟨hcanonical, -⟩ := Json.canonical_of_parse hj
  exact ⟨body, hj, hcanonical.members (n.tag, body) List.mem_cons_self, hread⟩

theorem decode_runResult {text : String} {r : RunResult}
    (h : decode text = .ok (.notice (.runResult r))) :
    ∃ written time, (Indication.notice (.runResult r)).encode? = some written ∧
      decode written = .ok (.notice (.runResult { r with time := time })) := by
  obtain ⟨body, -, hbody, hread⟩ := decode_notice rfl h
  obtain ⟨r', hr', hsame⟩ := Notice.map_eq_ok hread
  cases hsame
  have hfinite := RunResult.time_finite hbody hr'
  obtain ⟨y, hy, hjson⟩ := RunResult.readAs_json hfinite
  have hdepth := RunResult.depth_json { r with time := y }
  refine ⟨_, y, rfl, ?_⟩
  have hreads := RunResult.reads_json (r := { r with time := y }) hy .value
  have hdecode := decode_tagged "run-result" hjson
    (Nat.lt_of_le_of_lt hdepth (by decide))
  rw [ofJson_read rfl, Reader.map, hreads] at hdecode
  exact hdecode

theorem decode_thumb {text : String} {t : Thumb} (h : decode text = .ok (.notice (.thumb t))) :
    ∃ body top shown written, Json.parse text = .ok (.obj [("thumb", body)]) ∧
      body.held Thumb.fieldNames "top" = some (.num top) ∧
      body.held Thumb.fieldNames "shown" = some (.num shown) ∧
      (Indication.notice (.thumb t)).encode? = some written ∧
      if |top.value| < 2 ^ 128 - 2 ^ 103 ∧ |shown.value| < 2 ^ 128 - 2 ^ 103 then
        ∃ x y, decode written = .ok (.notice (.thumb { t with top := x, shown := y }))
      else decode written = .error (.malformed "thumb" .wrongType) := by
  obtain ⟨body, hparse, hbody, hread⟩ := decode_notice rfl h
  obtain ⟨t', ht', hsame⟩ := Notice.map_eq_ok hread
  cases hsame
  obtain ⟨top, shown, htop, hshown, htopFinite, hshownFinite⟩ := Thumb.held_numbers hbody ht'
  obtain ⟨a, ha, hadepth, haread, hanull⟩ := Json.readAs_single t.top
  obtain ⟨b, hb, hbdepth, hbread, hbnull⟩ := Json.readAs_single t.shown
  have hdecode := decode_tagged "thumb" (t.readAs_members ha hb)
    (by rw [t.depth_members hadepth hbdepth]; decide)
  refine ⟨body, top, shown, _, hparse, htop, hshown, rfl, ?_⟩
  rw [ofJson_read rfl, Reader.map] at hdecode
  split
  case isTrue hrange =>
    obtain ⟨x, rfl⟩ := haread (htopFinite.mpr hrange.1)
    obtain ⟨y, rfl⟩ := hbread (hshownFinite.mpr hrange.2)
    rw [t.reads_members (single_double x) (single_double y) .value] at hdecode
    exact ⟨x.convert, y.convert, hdecode⟩
  case isFalse hrange =>
    have hnull : b = .null ∨ (∃ y, single.Reads b y) ∧ a = .null := by
      cases hfinite : t.shown.isFinite with
      | false => exact .inl (hbnull hfinite)
      | true =>
        obtain ⟨y, hy⟩ := hbread hfinite
        refine .inr ⟨⟨y.convert, hy ▸ single_double y⟩, hanull ?_⟩
        by_contra htrue
        exact hrange ⟨htopFinite.mp (Bool.eq_true_of_not_eq_false htrue), hshownFinite.mp hfinite⟩
    rw [t.refuses_null hnull] at hdecode
    exact hdecode

/-- What is written of a run result is decoded again, whatever number its time was. What is written
of a thumb is decoded again if both of its fractions were numbers below half a unit beyond the
greatest of single precision; a greater one was read as an infinity, which is written as `null`. -/
theorem decode_numbers {text : String} {i : Indication} (h : decode text = .ok i) :
    (∀ r, i = .notice (.runResult r) →
      ∃ written time, i.encode? = some written ∧
        decode written = .ok (.notice (.runResult { r with time := time }))) ∧
    ∀ t, i = .notice (.thumb t) →
      ∃ body top shown written, Json.parse text = .ok (.obj [("thumb", body)]) ∧
        body.held Thumb.fieldNames "top" = some (.num top) ∧
        body.held Thumb.fieldNames "shown" = some (.num shown) ∧ i.encode? = some written ∧
        if |top.value| < 2 ^ 128 - 2 ^ 103 ∧ |shown.value| < 2 ^ 128 - 2 ^ 103 then
          ∃ x y, decode written = .ok (.notice (.thumb { t with top := x, shown := y }))
        else decode written = .error (.malformed "thumb" .wrongType) := by
  constructor
  · rintro r rfl
    exact decode_runResult h
  · rintro t rfl
    exact decode_thumb h

theorem decode_numbers_greatest :
    let run := "\x7b\"run-result\":\x7b\"success\":true,\"time\":1.7976931348623157e308\x7d\x7d"
    let thumb := "\x7b\"thumb\":[0.1,3.4028235677973362e38,5,24,7]\x7d"
    let written := "\x7b\"thumb\":\x7b\"top\":0.1,\"shown\":3.4028235e+38," ++
      "\"saved\":5,\"screen\":24,\"back\":7\x7d\x7d"
    let r : RunResult := ⟨none, true, [], none, .signed false 9218868437227405311⟩
    let t : Thumb := ⟨.signed false 1036831949, .signed false 2139095039, 5, 24, 7⟩
    decode run = .ok (.notice (.runResult r)) ∧ decode thumb = .ok (.notice (.thumb t)) ∧
      (∃ text time, (Indication.notice (.runResult r)).encode? = some text ∧
        decode text = .ok (.notice (.runResult { r with time := time }))) ∧
      (Indication.notice (.thumb t)).encode? = some written ∧
      ∃ x y, decode written = .ok (.notice (.thumb { t with top := x, shown := y })) := by
  intro run thumb written r t
  have hrun : decode run = .ok (.notice (.runResult r)) := eq_ok_of_toOption (by decide +kernel)
  have hthumb : decode thumb = .ok (.notice (.thumb t)) := eq_ok_of_toOption (by decide +kernel)
  have hwritten : (Indication.notice (.thumb t)).encode? = some written := by decide +kernel
  have haccepted : (decode written).toOption.isSome := by decide +kernel
  obtain ⟨body, top, shown, text, -, -, -, htext, hdecode⟩ := (decode_numbers hthumb).2 t rfl
  obtain rfl := Option.some.inj (hwritten.symm.trans htext)
  refine ⟨hrun, hthumb, (decode_numbers hrun).1 r rfl, hwritten, ?_⟩
  split at hdecode
  case isTrue => exact hdecode
  case isFalse =>
    rw [hdecode] at haccepted
    cases haccepted

theorem decode_numbers_lost :
    let thumb := "\x7b\"thumb\":\x7b\"top\":1e39,\"shown\":0.5," ++
      "\"saved\":1,\"screen\":24,\"back\":0\x7d\x7d"
    let t : Thumb := ⟨.signed false Width.single.infinity, .signed false 1056964608, 1, 24, 0⟩
    decode thumb = .ok (.notice (.thumb t)) ∧
      ∃ written, (Indication.notice (.thumb t)).encode? = some written ∧
        decode written = .error (.malformed "thumb" .wrongType) := by
  intro thumb t
  have hthumb : decode thumb = .ok (.notice (.thumb t)) := eq_ok_of_toOption (by decide +kernel)
  have hwritten : (Indication.notice (.thumb t)).encode? =
      some ("\x7b\"thumb\":\x7b\"top\":null,\"shown\":0.5," ++
        "\"saved\":1,\"screen\":24,\"back\":0\x7d\x7d") := by
    decide +kernel
  refine ⟨hthumb, _, hwritten, ?_⟩
  decide +kernel

end Indication

end Display3270
