import Mathlib.Data.List.Forall2
import Display3270.Indication.Reader
import Display3270.Proofs.Json.Shapes

namespace Display3270

open Record Reader

instance : Flat Cursor.record := by
  unfold Cursor.record
  infer_instance

theorem Cursor.reader_fits : Cursor.reader.Fits (.of ["enabled", "row", "column"]) := by
  intro o x y hxy
  have hparts := Flat.reader (r := Cursor.record) (by decide) o x y hxy
  rw [Cursor.reader, Cursor.reader, hparts]

namespace Change

def fieldNames : List String := ["column", "count", "text", "fg", "bg", "gr"]

instance : Flat record := by
  unfold record
  infer_instance

theorem payload_insertEntry {k : String} (hcount : k ≠ "count") (htext : k ≠ "text") (v : Json)
    (ms : List (String × Json)) :
    Payload.read (Draft.ofMembers (insertEntry k v ms)) =
      Payload.read (Draft.ofMembers ms) := by
  have hpass : ∀ x rest, Payload.read ((some k, x) :: rest) = Payload.read rest := by
    intro x rest
    simp [Payload.read, hcount, htext]
  induction ms with
  | nil => exact hpass _ _
  | cons m ms ih =>
    obtain ⟨l, w⟩ := m
    rw [insertEntry]
    split
    case isTrue hk =>
      subst hk
      exact (hpass _ _).trans (hpass _ _).symm
    case isFalse =>
      split
      · exact hpass _ _
      · simp only [Draft.ofMembers, Payload.read, ih]

theorem reader_fits : reader.Fits (.flat fun _ => fieldNames) := by
  intro o x y hxy
  cases hxy with
  | @insertFlat _ k v ms hk =>
    simp only [fieldNames, List.mem_cons, not_or] at hk
    obtain ⟨hcolumn, hcount, htext, hfg, hbg, hgr, -⟩ := hk
    have hfields : k ∉ record.fields.map Field.name := by
      change k ∉ ["column", "fg", "bg", "gr"]
      simp [hcolumn, hfg, hbg, hgr]
    have hrecord := Flat.readObject_insertEntry (r := record) (by decide) o hfields v ms
    simp only [Draft.ofJson, reader, hrecord, payload_insertEntry hcount htext]

end Change

namespace FileTransferState

theorem flat_of_record? {name : String} {r : Record FileTransferState}
    (h : record? name = some r) : Flat r ∧ (r.fields.map Field.name).Nodup := by
  unfold record? at h
  split at h
  case h_5 => cases h
  all_goals
    cases h
    exact ⟨inferInstance, by decide⟩

def fieldNames (ms : List (String × Json)) : List String :=
  match ms.lookup tagField with
  | none => []
  | some x =>
    match nameOf (Draft.ofJson x) with
    | .error _ => []
    | .ok name => ((record? name).map fun r => r.fields.map Field.name).getD []

theorem cause_notMem_fieldNames (ms : List (String × Json)) : "cause" ∉ fieldNames ms := by
  unfold fieldNames
  split
  · exact List.not_mem_nil
  · split
    · exact List.not_mem_nil
    · unfold record?
      split <;> decide

theorem read_congr {ms ns : List (String × Json)}
    (htag : ns.lookup tagField = ms.lookup tagField)
    (hfields : Matches (Shape.plainFields (fieldNames ms)) ms ns) :
    read (Draft.ofMembers ns) = read (Draft.ofMembers ms) := by
  simp only [read, Draft.findMember_ofMembers, htag]
  rw [fieldNames] at hfields
  cases hx : ms.lookup tagField with
  | none => rfl
  | some x =>
    simp only [Option.map_some]
    cases hname : nameOf (Draft.ofJson x) with
    | error e => rfl
    | ok name =>
      simp only [bind, Except.bind]
      cases hr : record? name with
      | none => rfl
      | some r =>
        obtain ⟨hflat, hnodup⟩ := flat_of_record? hr
        simp only [hx, hname, hr, Option.map_some, Option.getD_some] at hfields
        exact (hflat.readObject hnodup .buffer hfields).symm

end FileTransferState

namespace FileTransfer

open FileTransferState (tagField)

def fieldNames (ms : List (String × Json)) : List String :=
  "cause" :: tagField :: FileTransferState.fieldNames ms

theorem reader_fits : reader.Fits (.flat fieldNames) := by
  intro o x y hxy
  cases hxy with
  | @insertFlat _ k v ms hk =>
    simp only [fieldNames, List.mem_cons, not_or] at hk
    obtain ⟨hcause, htag, hfields⟩ := hk
    have hread := Flat.readObject_insertEntry (r := required "cause" ActionCause.reader)
      (by decide) o (by simpa [required, field] using hcause) v ms
    have hlookup : (insertEntry k v ms).lookup tagField = ms.lookup tagField := by
      rw [lookup_insertEntry, if_neg (Ne.symm htag)]
    have hstate := FileTransferState.read_congr hlookup
      (.insertEntry (by simpa using hfields) v ms)
    simp only [Draft.ofJson, reader, hread, hstate]

end FileTransfer

namespace OiaField

theorem flat_record (tag : String) :
    Flat (record tag) ∧ ((record tag).fields.map Field.name).Nodup := by
  unfold record
  split <;> exact ⟨inferInstance, by decide⟩

def fieldNames (ms : List (String × Json)) : List String :=
  tagField :: match ms.lookup tagField with
    | some (.str tag) => (record tag).fields.map Field.name
    | _ => []

theorem reader_fits : reader.Fits (.flat fieldNames) := by
  intro o x y hxy
  cases hxy with
  | @insertFlat _ k v ms hk =>
    simp only [fieldNames, List.mem_cons, not_or] at hk
    obtain ⟨htag, hfields⟩ := hk
    have hlookup : (insertEntry k v ms).lookup tagField = ms.lookup tagField := by
      rw [lookup_insertEntry, if_neg (Ne.symm htag)]
    simp only [Draft.ofJson, reader, Draft.findMember_ofMembers, hlookup]
    cases hx : ms.lookup tagField with
    | none => rfl
    | some x =>
      cases x with
      | str tag =>
        obtain ⟨hflat, hnodup⟩ := flat_record tag
        simp only [hx] at hfields
        have hobject := hflat.readObject_insertEntry hnodup .buffer hfields v ms
        simp only [Option.map_some, Draft.ofJson, string, bind, Except.bind, hobject]
      | _ => rfl

end OiaField

namespace RowChanges

def shape : Shape :=
  .record [("row", .plain), ("changes", .list (.flat fun _ => Change.fieldNames))]

theorem reader_fits : reader.Fits shape := by
  have hfields := ((follows_required "row" (fits_plain uint16)).map RowChanges.mk).seq
    (follows_required "changes" Change.reader_fits.list)
  exact hfields.reader (by decide)

end RowChanges

namespace ScreenUpdate

def shape : Shape :=
  .record [("cursor", .of ["enabled", "row", "column"]), ("rows", .list RowChanges.shape)]

theorem reader_fits : reader.Fits shape := by
  have hfields := ((follows_optional "cursor" Cursor.reader_fits).map ScreenUpdate.mk).seq
    (follows_defaulted "rows" RowChanges.reader_fits.list [])
  exact hfields.reader (by decide)

end ScreenUpdate

namespace Notice

def shapes : List (String × Shape) :=
  [("bell", .of []),
    ("code-pages", .list (.of ["name", "aliases"])),
    ("connect-attempt", .of ["host-ip", "port"]),
    ("connection", .of ["state", "host", "cause"]),
    ("erase", .of ["logical-rows", "logical-cols", "fg", "bg"]),
    ("flipped", .of ["value"]),
    ("font", .of ["text"]),
    ("formatted", .of ["state"]),
    ("ft", .flat FileTransfer.fieldNames),
    ("hello", .of ["version", "build", "copyright"]),
    ("icon", .of ["text"]),
    ("models", .list (.of ["model", "rows", "columns"])),
    ("oia", .flat OiaField.fieldNames),
    ("passthru", .of ["p-tag", "parent-r-tag", "action", "args"]),
    ("popup", .of ["type", "text", "error"]),
    ("prefixes", .of ["value"]),
    ("proxies", .list (.of ["name", "username", "port"])),
    ("run-result", .of ["r-tag", "success", "text", "abort", "time"]),
    ("screen", ScreenUpdate.shape),
    ("screen-mode", .of ["model", "rows", "columns", "color", "oversize", "extended"]),
    ("scroll", .of ["fg", "bg"]),
    ("setting", .of ["name", "value", "cause"]),
    ("stats", .of ["bytes-received", "bytes-sent", "records-received", "records-sent"]),
    ("terminal-name", .of ["text", "override"]),
    ("thumb", .of ["top", "shown", "saved", "screen", "back"]),
    ("tls", .of ["secure", "verified", "session", "host-cert"]),
    ("tls-hello", .of ["supported", "provider", "options"]),
    ("trace-file", .of ["name"]),
    ("ui-error", .of ["fatal", "text", "operation", "member", "line", "column"]),
    ("window-title", .of ["text"])]

theorem fits_readers : List.Forall₂ (fun e f => e.1 = f.1 ∧ e.2.Fits f.2) readers shapes := by
  unfold readers shapes
  repeat'
    first
    | exact .nil
    | refine .cons ⟨rfl, ?_⟩ ?_
    | exact Flat.objectReader (by decide)
    | exact (Flat.reader (by decide)).map _
    | exact (Flat.reader (by decide)).list.map _
    | exact ScreenUpdate.reader_fits.map _
    | exact FileTransfer.reader_fits.map _
    | exact OiaField.reader_fits.map _

end Notice

end Display3270
