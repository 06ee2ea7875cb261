import Display3270.Lifecycle
import Display3270.Proofs.Indication.Tolerance
import Display3270.Proofs.Json.Refusing

namespace Display3270

open Record Reader

def Color.fields : List String := ["fg", "bg"]

namespace Notice

def colored : List (String × Shape) :=
  [("erase", .of ["logical-rows", "logical-cols", "fg", "bg"]), ("screen", ScreenUpdate.shape)]

end Notice

section UnknownColor

variable {text : String}

def Reader.RefusesColor {α : Type} (r : Reader α) (text : String) (s : Shape) : Prop :=
  r.Refuses Color.fields (.str text) .unknownVariant s

theorem Color.check_unknown (h : ∀ c : Color, c.name ≠ text) (o : Origin) :
    (Color.reader.option o (Draft.ofJson (.str text))).map (fun _ => ()) =
      .error .unknownVariant := by
  have hnone : (Color.all.map fun c => (c.name, c)).lookup text = none := by
    apply List.lookup_eq_none_iff.mpr
    intro p hp
    obtain ⟨c, -, rfl⟩ := List.mem_map.mp hp
    simpa using (h c).symm
  simp [Color.reader, option, named, choice, Draft.ofJson, hnone, Except.map]

theorem Erase.refusesColor (h : ∀ c : Color, c.name ≠ text) :
    Erase.reader.RefusesColor text (.of ["logical-rows", "logical-cols", "fg", "bg"]) := by
  refine (guards_plain ?_).reader (by decide)
  intro f hf hname o
  change f ∈ [_, _, _, _] at hf
  simp only [List.mem_cons, List.not_mem_nil, or_false] at hf
  rcases hf with rfl | rfl | rfl | rfl
  · exact absurd hname (by decide)
  · exact absurd hname (by decide)
  · exact Color.check_unknown h o
  · exact Color.check_unknown h o

theorem Change.refusesColor (h : ∀ c : Color, c.name ≠ text) :
    Change.reader.RefusesColor text (.flat fun _ => Change.fieldNames) := by
  have hguards : Change.record.Guards Color.fields (.str text) .unknownVariant
      (Shape.plainFields ["column", "fg", "bg", "gr"]) := by
    refine guards_plain ?_
    intro f hf hname o
    change f ∈ [_, _, _, _] at hf
    simp only [List.mem_cons, List.not_mem_nil, or_false] at hf
    rcases hf with rfl | rfl | rfl | rfl
    · exact absurd hname (by decide)
    · exact Color.check_unknown h o
    · exact Color.check_unknown h o
    · exact absurd hname (by decide)
  intro o x y c hxy hread
  cases hxy with
  | @flat _ name before after x hname =>
    obtain ⟨build, hbuild, -⟩ := bind_eq_ok_iff.mp hread
    have hs : (name, .plain) ∈ Shape.plainFields ["column", "fg", "bg", "gr"] := by
      apply List.mem_map_of_mem
      have hcolors : ∀ n ∈ Color.fields, n ∈ ["column", "fg", "bg", "gr"] := by decide
      exact hcolors name hname
    have herror := hguards.readObject (by decide) hs (fun _ => hname) (.plain x) hbuild
    simp only [Draft.ofJson, Change.reader, herror]
    rfl

theorem RowChanges.refusesColor (h : ∀ c : Color, c.name ≠ text) :
    RowChanges.reader.RefusesColor text RowChanges.shape := by
  have hrow : (required "row" uint16).Guards Color.fields (.str text) .unknownVariant
      [("row", .plain)] := guards_field "row" fun hname => absurd (hname rfl) (by decide)
  have hchanges : (required "changes" (list Change.reader)).Guards Color.fields (.str text)
      .unknownVariant [("changes", .list (.flat fun _ => Change.fieldNames))] :=
    guards_field "changes" fun _ => (Change.refusesColor h).list
  exact ((hrow.map RowChanges.mk).seq hchanges).reader (by decide)

theorem ScreenUpdate.refusesColor (h : ∀ c : Color, c.name ≠ text) :
    ScreenUpdate.reader.RefusesColor text ScreenUpdate.shape := by
  have hcursor : (optional "cursor" Cursor.reader).Guards Color.fields (.str text) .unknownVariant
      [("cursor", .of ["enabled", "row", "column"])] :=
    guards_field "cursor" fun _ => refuses_of_disjoint (by decide)
  have hrows : (defaulted "rows" (list RowChanges.reader) []).Guards Color.fields (.str text)
      .unknownVariant [("rows", .list RowChanges.shape)] :=
    guards_field "rows" fun _ => (RowChanges.refusesColor h).list
  exact ((hcursor.map ScreenUpdate.mk).seq hrows).reader (by decide)

theorem Notice.colored_refusesColor (h : ∀ c : Color, c.name ≠ text) : ∀ e ∈ colored,
    ∃ r, readers.lookup e.1 = some r ∧ r.RefusesColor text e.2 := by
  simp only [colored, List.forall_mem_cons]
  refine ⟨⟨_, rfl, ?_⟩, ⟨_, rfl, ?_⟩, List.forall_mem_nil _⟩
  · exact (Erase.refusesColor h).map _
  · exact (ScreenUpdate.refusesColor h).map _

end UnknownColor

theorem Indication.ofJson_unknown_color {text : String} (htext : ∀ c : Color, c.name ≠ text)
    {tag : String} {s : Shape} (hs : (tag, s) ∈ Notice.colored) {x y : Json}
    (hxy : Swaps Color.fields (.str text) s x y) {levels : List (List Json × List Json)}
    {i : Indication} (hi : ofJson ((Json.obj [(tag, x)]).nest levels) = .ok i) :
    ofJson ((Json.obj [(tag, y)]).nest levels) =
      .error ((DecodeError.malformed tag .unknownVariant).within levels.length) := by
  obtain ⟨r, hr, hrefuses⟩ := Notice.colored_refusesColor htext (tag, s) hs
  obtain ⟨around, j, haround, hj, -⟩ := ofJson_nest_ok hi
  obtain ⟨n, hn, -⟩ := ofJson_read_ok hr hj
  refine ofJson_nest_error ?_ haround
  rw [ofJson_read hr, hrefuses .value x y n hxy hn]

namespace Lifecycle

variable {α : Type}

/-- One color that is not known makes the whole message unreadable, wherever it stands among the
changes, the rows, and the members of batches. Nothing of the message is applied, and the link does
not count it as an error. -/
theorem receive_unknown_color {text : String} (htext : ∀ c : Color, c.name ≠ text)
    {tag : String} {s : Shape} (hs : (tag, s) ∈ Notice.colored) {x y : Json}
    (hxy : Swaps Color.fields (.str text) s x y) {levels : List (List Json × List Json)}
    {i : Indication} (hi : Indication.ofJson ((Json.obj [(tag, x)]).nest levels) = .ok i)
    {message : String} (hmessage : Json.parse message = .ok ((Json.obj [(tag, y)]).nest levels)) :
    let e := (DecodeError.malformed tag .unknownVariant).within levels.length
    Indication.decode message = .error e ∧
      (∀ session : Session, session.process message = ⟨session, [], .error (.decode e)⟩) ∧
      ∀ l : Lifecycle α, l.receive message = (l, [], .ok ()) := by
  intro e
  have hdecode : Indication.decode message = .error e := by
    simp only [Indication.decode, hmessage]
    exact Indication.ofJson_unknown_color htext hs hxy hi
  refine ⟨hdecode, ?_, ?_⟩
  · intro session
    simp only [Session.process, hdecode]
  · intro l
    simp only [receive, hdecode]

theorem receive_unknown_color_batch :
    let message := "\x7b\"initialize\":[\x7b\"screen\":[null," ++
      "[[1,[\x7b\"bg\":\"ultraviolet\",\"column\":1,\"count\":1\x7d]]]]\x7d]\x7d"
    ∀ l : Lifecycle Double, l.receive message = (l, [], .ok ()) := by
  intro message
  let change (color : String) : Json :=
    .obj ([] ++ ("bg", .str color) :: [("column", .natural 1), ("count", .natural 1)])
  let row (color : String) : Json := .arr ([.natural 1] ++ .arr ([] ++ change color :: []) :: [])
  let update (color : String) : Json := .arr ([.null] ++ .arr ([] ++ row color :: []) :: [])
  have htext : ∀ c : Color, c.name ≠ "ultraviolet" := by
    intro c
    cases c <;> decide
  have hchange : Swaps Color.fields (.str "ultraviolet") (.flat fun _ => Change.fieldNames)
      (change "red") (change "ultraviolet") := .flat [] _ _ (by decide)
  have hrow : Swaps Color.fields (.str "ultraviolet") RowChanges.shape (row "red")
      (row "ultraviolet") := .place [.natural 1] [] rfl nofun (.item [] [] hchange)
  have hupdate : Swaps Color.fields (.str "ultraviolet") ScreenUpdate.shape (update "red")
      (update "ultraviolet") := .place [.null] [] rfl nofun (.item [] [] hrow)
  have hread : Indication.ofJson ((Json.obj [("screen", update "red")]).nest [([], [])]) =
      .ok (.batch [.notice (.screen ⟨none, [⟨1, [⟨1, .count 1, none, some .red, none⟩]⟩]⟩)]) := rfl
  have hmessage : Json.parse message =
      .ok ((Json.obj [("screen", update "ultraviolet")]).nest [([], [])]) :=
    eq_ok_of_toOption (by decide +kernel)
  exact (receive_unknown_color htext (.tail _ (.head _)) hupdate hread hmessage).2.2

theorem receive_unknown_color_lost :
    let message (color : String) :=
      "\x7b\"screen\":\x7b\"rows\":[\x7b\"row\":1,\"changes\":[\x7b\"column\":1,\"text\":\"A\"" ++
        color ++ "\x7d]\x7d]\x7d\x7d"
    let l : Lifecycle Double := (create (.create 1 1 .green .black) .initial).opened.1
    let text (color : String) := (l.receive (message color)).1.session.screen.rowText 0
    (∀ c : Color, c.name ≠ "ultraviolet") ∧ text ",\"fg\":\"red\"" = "A" ∧ text "" = "A" ∧
      text ",\"fg\":\"ultraviolet\"" = " " := by
  intro message l text
  refine ⟨?_, by decide +kernel⟩
  intro c
  cases c <;> decide

end Lifecycle

end Display3270
