import Display3270.Proofs.Indication.Decoding
import Display3270.Proofs.Indication.Records
import Display3270.Proofs.Json.Printing
import Display3270.Proofs.Leaves

namespace Display3270

open Record Reader

namespace Notice

def floatFree : Notice → Bool
  | .popup p => p.error.all Json.floatFree
  | .runResult _ => false
  | .setting s => s.value.all Json.floatFree
  | .thumb _ => false
  | .other _ body => body.floatFree
  | _ => true

def Rewrites (tag : String) (r : Reader Notice) : Prop :=
  ∀ body n, body.Canonical → r .value (Draft.ofJson body) = .ok n → n.floatFree →
    n.tag = tag ∧ ∃ x, n.body? = some x ∧ x.Prints body.depth ∧ r.Reads x n

variable {α : Type} {tag : String}

theorem map_eq_ok {r : Reader α} {f : α → Notice} {o : Origin} {d : Draft} {n : Notice}
    (h : r.map f o d = .ok n) : ∃ a, r o d = .ok a ∧ f a = n :=
  map_eq_ok_iff.mp h

theorem reads_map {r : Reader α} {x : Json} {a : α} (h : r.Reads x a) (f : α → Notice) :
    (r.map f).Reads x (f a) := by
  intro o
  rw [Reader.map, h o]
  rfl

theorem rewrites_map {r : Reader α} {write : α → Json} (h : r.Keeps write) (f : α → Notice)
    (hf : ∀ a, (f a).tag = tag ∧ (f a).body? = some (write a)) : Rewrites tag (r.map f) := by
  intro body n _ hread _
  obtain ⟨a, ha, rfl⟩ := map_eq_ok hread
  exact ⟨(hf a).1, write a, (hf a).2, h.shallow .value body a ha, reads_map (h.carries.reads a) f⟩

theorem objectReader_map (r : Record α) (f : α → Notice) :
    (f <$> r).objectReader = r.objectReader.map f := by
  funext o d
  cases d with
  | obj ms fault =>
    have hcheck (seen : List String) :
        (f <$> r).checkMembers o seen ms = r.checkMembers o seen ms := by
      induction ms generalizing seen with
      | nil => rfl
      | cons m ms ih =>
        obtain ⟨k, d⟩ := m
        cases k with
        | none => rfl
        | some k =>
          simp only [checkMembers, ih]
          rfl
    simp only [objectReader, readObject, Reader.map, hcheck, build_map]
    cases r.checkMembers o [] ms with
    | error e => rfl
    | ok _ =>
      cases Draft.close fault with
      | error e => rfl
      | ok _ => rfl
  | _ => rfl

theorem rewrites_single {r : Reader α} {write : α → Json} (h : r.Carries write)
    (hp : ∀ n a, (write a).Prints n) (key : String) (f : α → Notice)
    (hf : ∀ a, (f a).tag = tag ∧ (f a).body? = some (.obj [(key, write a)])) :
    Rewrites tag (f <$> required key r).objectReader := by
  rw [objectReader_map]
  exact rewrites_map (keeps_single h hp key) f hf

theorem rewrites_of_float {r : Reader α} {f : α → Notice} (h : ∀ a, (f a).floatFree = false) :
    Rewrites tag (r.map f) := by
  intro body n _ hread hfree
  obtain ⟨a, -, rfl⟩ := map_eq_ok hread
  rw [h a] at hfree
  cases hfree

theorem rewrites_bell : Rewrites "bell" (pure .bell : Record Notice).objectReader := by
  intro body n _ hread _
  have hcarries := (Finds.pure Notice.bell []).readObject
  obtain ⟨hpos, find, absent, -, hbuild⟩ := build_of_reader (build_of_objectReader hread)
  cases hbuild
  exact ⟨rfl, .obj [], rfl, Json.prints_obj_of_pos hpos (by simp), hcarries⟩

theorem rewrites_held {r : Record α} {write : α → Json} {value : α → Option Json} {f : α → Notice}
    (held : ∀ {o j a}, j.Canonical → r.reader o (Draft.ofJson j) = .ok a →
      ∀ x ∈ value a, x.Canonical ∧ x.depth < j.depth ∧ x ≠ .null)
    (reads : ∀ {a}, (∀ x ∈ value a, x.Canonical ∧ x ≠ .null) → r.reader.Reads (write a) a)
    (prints : ∀ {a n}, 0 < n → (∀ x ∈ value a, x.Prints (n - 1)) → (write a).Prints n)
    (hf : ∀ a, (f a).tag = tag ∧ (f a).body? = some (write a))
    (hfree : ∀ a, (f a).floatFree = (value a).all Json.floatFree) :
    Rewrites tag (r.reader.map f) := by
  intro body n hcanonical hread hn
  obtain ⟨a, ha, rfl⟩ := map_eq_ok hread
  have hheld := held hcanonical ha
  have hreads := reads fun x hx => ⟨(hheld x hx).1, (hheld x hx).2.2⟩
  refine ⟨(hf a).1, write a, (hf a).2, ?_, reads_map hreads f⟩
  apply prints (build_of_reader ha).1
  intro x hx
  obtain ⟨hx', hdepth, -⟩ := hheld x hx
  have hall : x.floatFree := by
    rw [hfree, Option.mem_def.mp hx] at hn
    exact hn
  exact ⟨hx'.exact hall, by omega⟩

theorem rewrites_readers : ∀ entry ∈ readers, Rewrites entry.1 entry.2 := by
  simp only [readers, List.forall_mem_cons]
  refine ⟨rewrites_bell, rewrites_map CodePage.keeps.list .codePages fun _ => ⟨rfl, rfl⟩,
    rewrites_map ConnectAttempt.keeps .connectAttempt fun _ => ⟨rfl, rfl⟩,
    rewrites_map Connection.keeps .connection fun _ => ⟨rfl, rfl⟩,
    rewrites_map Erase.keeps .erase fun _ => ⟨rfl, rfl⟩,
    rewrites_single bool_carries Json.prints_bool "value" .flipped fun _ => ⟨rfl, rfl⟩,
    rewrites_single string_carries Json.prints_str "text" .font fun _ => ⟨rfl, rfl⟩,
    rewrites_single bool_carries Json.prints_bool "state" .formatted fun _ => ⟨rfl, rfl⟩,
    rewrites_map FileTransfer.keeps .fileTransfer fun _ => ⟨rfl, rfl⟩,
    rewrites_map Hello.keeps .hello fun _ => ⟨rfl, rfl⟩,
    rewrites_single string_carries Json.prints_str "text" .icon fun _ => ⟨rfl, rfl⟩,
    rewrites_map Model.keeps.list .models fun _ => ⟨rfl, rfl⟩,
    rewrites_map OiaField.keeps .oia fun _ => ⟨rfl, rfl⟩,
    rewrites_map Passthru.keeps .passthru fun _ => ⟨rfl, rfl⟩,
    rewrites_held Popup.held_error Popup.reads_json Popup.prints_json (fun _ => ⟨rfl, rfl⟩)
      fun _ => rfl,
    rewrites_single string_carries Json.prints_str "value" .prefixes fun _ => ⟨rfl, rfl⟩,
    rewrites_map Proxy.keeps.list .proxies fun _ => ⟨rfl, rfl⟩,
    rewrites_of_float fun _ => rfl,
    rewrites_map ScreenUpdate.keeps .screen fun _ => ⟨rfl, rfl⟩,
    rewrites_map ScreenMode.keeps .screenMode fun _ => ⟨rfl, rfl⟩,
    rewrites_map Scroll.keeps .scroll fun _ => ⟨rfl, rfl⟩,
    rewrites_held Setting.held_value Setting.reads_json Setting.prints_json (fun _ => ⟨rfl, rfl⟩)
      fun _ => rfl,
    rewrites_map Stats.keeps .stats fun _ => ⟨rfl, rfl⟩,
    rewrites_map TerminalName.keeps .terminalName fun _ => ⟨rfl, rfl⟩,
    rewrites_of_float fun _ => rfl,
    rewrites_map Tls.keeps .tls fun _ => ⟨rfl, rfl⟩,
    rewrites_map TlsHello.keeps .tlsHello fun _ => ⟨rfl, rfl⟩,
    rewrites_map TraceFile.keeps .traceFile fun _ => ⟨rfl, rfl⟩,
    rewrites_map UiError.keeps .uiError fun _ => ⟨rfl, rfl⟩,
    rewrites_single string_carries Json.prints_str "text" .windowTitle fun _ => ⟨rfl, rfl⟩, ?_⟩
  simp

theorem body?_isSome_iff (n : Notice) :
    n.body?.isSome ↔ ∀ tag body, n ≠ .other tag body := by
  cases n <;> simp [body?]

end Notice

namespace Indication

theorem readNotice_normal {tag : String} {body x : Json} {n : Notice} (hbody : body.Canonical)
    (h : readNotice tag body = .ok (.notice n)) (hfree : n.floatFree) (hx : n.body? = some x) :
    n.tag = tag ∧ x.Prints body.depth ∧ readNotice tag x.normal = .ok (.notice n) := by
  rcases readNotice_eq_ok_iff.mp h with ⟨-, hn⟩ | ⟨hknown, r, m, hr, hm, hn⟩
  · cases hn
    cases hx
  · cases hn
    obtain ⟨before, after, hreaders, -⟩ := List.lookup_eq_some_iff.mp hr
    have hrewrites := Notice.rewrites_readers (tag, r) (by simp [hreaders])
    obtain ⟨htag, y, hy, hprints, hreads⟩ := hrewrites body n hbody hm hfree
    cases hx.symm.trans hy
    exact ⟨htag, hprints, readNotice_eq_ok_iff.mpr (.inr ⟨hknown, r, n, hr, hreads .value, rfl⟩)⟩

theorem memberJson?_cons_some {i : Indication} {is : List Indication} {xs : List Json}
    (h : memberJson? (i :: is) = some xs) :
    ∃ y ys, i.json? = some y ∧ memberJson? is = some ys ∧ xs = y :: ys := by
  rw [memberJson?] at h
  cases hi : i.json? with
  | none => simp [hi] at h
  | some y =>
    cases his : memberJson? is with
    | none => simp [hi, his] at h
    | some ys =>
      simp only [hi, his, Option.some.injEq] at h
      exact ⟨y, ys, rfl, rfl, h.symm⟩

-- On the indication: `ofJson_ok` gives back the shape of the value that it was read from.
mutual

theorem ofJson_normal : ∀ (i : Indication) {j x : Json}, j.Canonical → ofJson j = .ok i →
    (∀ n ∈ i.leaves, n.floatFree) → i.json? = some x →
    x.Prints j.depth ∧ ofJson x.normal = .ok i
  | .notice n, j, x, hj, h, hfree, hx => by
    obtain ⟨y, hy, rfl⟩ := Option.map_eq_some_iff.mp hx
    rcases ofJson_ok h with ⟨tag, body, rfl, htag, hread⟩ | ⟨items, members, -, -, h⟩
    · have hbody : body.Canonical := hj.members (tag, body) List.mem_cons_self
      have hn : n.floatFree := hfree n List.mem_cons_self
      obtain ⟨rfl, hprints, hnormal⟩ := readNotice_normal hbody hread hn hy
      rw [Json.depth_single, Json.prints_single, Json.normal_single, ofJson_single htag]
      exact ⟨hprints, hnormal⟩
    · cases h
  | .batch members, j, x, hj, h, hfree, hx => by
    obtain ⟨ys, hys, rfl⟩ := Option.map_eq_some_iff.mp hx
    rcases ofJson_ok h with ⟨tag, body, rfl, htag, hread⟩ | ⟨items, members', rfl, hitems, hm⟩
    · obtain ⟨n, hn⟩ := readNotice_ok hread
      cases hn
    · cases hm
      have hbody : (Json.arr items).Canonical :=
        hj.members (batchTag, .arr items) List.mem_cons_self
      obtain ⟨hprints, hread⟩ := ofItems_normal members hbody.items hitems hfree hys
      rw [Json.depth_single, Json.prints_single, Json.normal_single]
      refine ⟨Json.prints_arr.mpr hprints, ?_⟩
      simp only [Json.normal, Json.normalItems_eq, ofJson, hread, ↓reduceIte]

theorem ofItems_normal : ∀ (is : List Indication) {js xs : List Json},
    (∀ j ∈ js, j.Canonical) → ofItems js = .ok is → (∀ n ∈ memberLeaves is, n.floatFree) →
    memberJson? is = some xs →
    (∀ x ∈ xs, x.Prints (Json.itemDepth js)) ∧ ofItems (xs.map Json.normal) = .ok is
  | [], js, xs, hjs, h, hfree, hx => by
    cases hx
    exact ⟨by simp, rfl⟩
  | i :: is, [], xs, hjs, h, hfree, hx => by cases h
  | i :: is, j :: js, xs, hjs, h, hfree, hx => by
    obtain ⟨i', rest, hcons, hi, hrest⟩ := ofItems_cons_ok h
    cases hcons
    obtain ⟨hj, hjs⟩ := List.forall_mem_cons.mp hjs
    obtain ⟨hfirst, hfree⟩ := List.forall_mem_append.mp hfree
    obtain ⟨y, ys, hy, hys, rfl⟩ := memberJson?_cons_some hx
    obtain ⟨hprints, hread⟩ := ofJson_normal i hj hi hfirst hy
    obtain ⟨hall, hreads⟩ := ofItems_normal is hjs hrest hfree hys
    constructor
    · intro x hx
      rcases List.mem_cons.mp hx with rfl | hx
      · exact hprints.mono (Nat.le_max_left ..)
      · exact (hall x hx).mono (Nat.le_max_right ..)
    · simp only [List.map_cons, ofItems, hread, hreads]

end

mutual

theorem json?_isSome_iff : ∀ i : Indication,
    i.json?.isSome ↔ ∀ tag body, Notice.other tag body ∉ i.leaves
  | .notice n => by
    simp only [json?, Option.isSome_map, Notice.body?_isSome_iff, leaves, List.mem_singleton,
      ne_comm]
  | .batch members => by
    simp only [json?, Option.isSome_map, memberJson?_isSome_iff members, leaves]

theorem memberJson?_isSome_iff : ∀ is : List Indication,
    (memberJson? is).isSome ↔ ∀ tag body, Notice.other tag body ∉ memberLeaves is
  | [] => by simp [memberJson?, memberLeaves]
  | i :: is => by
    have hi := json?_isSome_iff i
    have his := memberJson?_isSome_iff is
    have hboth : (memberJson? (i :: is)).isSome ↔ i.json?.isSome ∧ (memberJson? is).isSome := by
      rw [memberJson?]
      cases i.json? <;> cases memberJson? is <;> simp
    simp only [hboth, hi, his, memberLeaves, List.mem_append, not_or]
    exact ⟨fun h tag body => ⟨h.1 tag body, h.2 tag body⟩,
      fun h => ⟨fun tag body => (h tag body).1, fun tag body => (h tag body).2⟩⟩

end

/-- What is decoded of a message without floats can be written unless a tag in it is unknown, and
is what the written text is decoded as. -/
theorem decode_encode {text : String} {i : Indication} (h : decode text = .ok i)
    (hfree : ∀ n ∈ i.leaves, n.floatFree) :
    (i.encode?.isSome ↔ ∀ tag body, Notice.other tag body ∉ i.leaves) ∧
      ∀ written, i.encode? = some written → decode written = .ok i := by
  obtain ⟨j, hj, hi⟩ := (decode_eq_ok_iff text i).mp h
  obtain ⟨hcanonical, hdepth⟩ := Json.canonical_of_parse hj
  constructor
  · rw [encode?, Option.isSome_map]
    exact json?_isSome_iff i
  · intro written hwritten
    obtain ⟨x, hx, rfl⟩ := Option.map_eq_some_iff.mp hwritten
    obtain ⟨⟨hexact, hx'⟩, hread⟩ := ofJson_normal i hcanonical hi hfree hx
    have hparse := Json.parse_compact hexact.readAs (Nat.le_trans hx' hdepth)
    exact (decode_eq_ok_iff x.compact i).mpr ⟨x.normal, hparse, hread⟩

theorem decode_encode_nested :
    let text :=
      "\x7b\"initialize\":[\x7b\"initialize\":[\x7b\"setting\":\x7b\"value\":[null,-7]," ++
        "\"name\":\"x\"\x7d\x7d]\x7d,\x7b\"oia\":[\"lock\"]\x7d]\x7d"
    let setting : Setting := ⟨"x", some (.arr [.null, .num (.int (-7))]), none⟩
    let i : Indication :=
      .batch [.batch [.notice (.setting setting)], .notice (.oia (.lock none))]
    decode text = .ok i ∧ (∀ n ∈ i.leaves, n.floatFree) ∧
      ∃ written, i.encode? = some written ∧ decode written = .ok i := by
  intro text setting i
  have hdecode : decode text = .ok i := by
    have h : (decode text).toOption = some i := by
      subst text i setting
      decide +kernel
    cases hd : decode text with
    | error e =>
      rw [hd] at h
      cases h
    | ok j =>
      rw [hd] at h
      exact congrArg Except.ok (Option.some.inj h)
  have hfree : ∀ n ∈ i.leaves, n.floatFree := by
    subst i setting
    decide
  obtain ⟨hsome, hread⟩ := decode_encode hdecode hfree
  have hknown : ∀ tag body, Notice.other tag body ∉ i.leaves := by
    simp [i, leaves, memberLeaves]
  obtain ⟨written, hwritten⟩ := Option.isSome_iff_exists.mp (hsome.mpr hknown)
  exact ⟨hdecode, hfree, written, hwritten, hread written hwritten⟩

end Indication

end Display3270
