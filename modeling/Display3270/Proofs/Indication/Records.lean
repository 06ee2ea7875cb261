import Display3270.Indication.Writer
import Display3270.Proofs.Json.Fields

namespace Display3270

namespace Reader

variable {α : Type}

theorem string_carries : string.Carries .str := ⟨fun _ _ => rfl, by simp⟩

theorem string_shallow : string.Shallow .str := fun _ _ s _ => Json.prints_str _ s

theorem bool_carries : bool.Carries .bool := ⟨fun _ _ => rfl, by simp⟩

theorem natural_ofJson (bits n : Nat) (h : n < Nat.pow 2 bits) (o : Origin) :
    natural bits o (Draft.ofJson (Json.natural n).normal) = .ok n := by
  have hfits : 0 ≤ (n : Int) ∧ n < Nat.pow 2 bits := ⟨Int.natCast_nonneg n, h⟩
  simp only [Json.natural, Json.normal, Draft.ofJson, natural, Int.toNat_natCast, if_pos hfits]

theorem uint8_carries : uint8.Carries fun n => .natural n.toNat where
  reads n o := by
    simp only [uint8, map, natural_ofJson 8 n.toNat n.toNat_lt o, Except.map, UInt8.ofNat_toNat]
  ne_null n := by simp [Json.natural]

theorem uint16_carries : uint16.Carries Json.word where
  reads n o := by
    simp only [uint16, map, Json.word, natural_ofJson 16 n.toNat n.toNat_lt o, Except.map,
      UInt16.ofNat_toNat]
  ne_null n := by simp [Json.word, Json.natural]

theorem uint64_carries : uint64.Carries Json.longWord where
  reads n o := by
    simp only [uint64, map, Json.longWord, natural_ofJson 64 n.toNat n.toNat_lt o, Except.map,
      UInt64.ofNat_toNat]
  ne_null n := by simp [Json.longWord, Json.natural]

theorem named_carries {table : List (String × α)} {other : Option α} {name : α → String}
    (h : ∀ a, (table.lookup (name a)).or other = some a) :
    (named table other).Carries fun a => .str (name a) where
  reads a o := by
    simp only [Json.normal, Draft.ofJson, named, choice, h a, Option.map_some]
  ne_null a := by simp

end Reader

namespace Json

@[simp]
theorem prints_byte (n : Nat) (b : UInt8) : (natural b.toNat).Prints n :=
  prints_natural n (Nat.lt_trans b.toNat_lt (by decide))

@[simp]
theorem prints_word (n : Nat) (w : UInt16) : (word w).Prints n :=
  prints_natural n (Nat.lt_trans w.toNat_lt (by decide))

@[simp]
theorem prints_longWord (n : Nat) (w : UInt64) : (longWord w).Prints n :=
  prints_natural n w.toNat_lt

end Json

theorem ActionCause.carries : ActionCause.reader.Carries ActionCause.json :=
  Reader.named_carries fun c => by cases c <;> rfl

theorem ConnectionState.carries : ConnectionState.reader.Carries fun s => .str s.name :=
  Reader.named_carries fun s => by cases s <;> rfl

theorem Color.carries : Color.reader.Carries Color.json :=
  Reader.named_carries fun c => by cases c <;> rfl

theorem ComposeType.carries :
    (Reader.named OiaField.composeTypes none).Carries ComposeType.json where
  reads t o := by cases t <;> rfl
  ne_null t := by cases t <;> simp [ComposeType.json]

theorem PopupType.carries : (Reader.named PopupType.names none).Carries fun t => .str t.name :=
  Reader.named_carries fun t => by cases t <;> rfl

@[simp]
theorem ActionCause.prints_json (n : Nat) (c : ActionCause) : c.json.Prints n :=
  Json.prints_str n c.name

@[simp]
theorem Color.prints_json (n : Nat) (c : Color) : c.json.Prints n :=
  Json.prints_str n c.name

@[simp]
theorem ComposeType.prints_json (n : Nat) (t : ComposeType) : t.json.Prints n := by
  cases t <;> exact Json.prints_str n _

open Record
open Reader (string_shallow string_carries bool_carries uint8_carries uint16_carries uint64_carries
  uint64 string)

theorem Connection.keeps : Connection.reader.Keeps Connection.json := by
  refine keeps_flat (fun c => .seq (.seq (.map (finds_required ConnectionState.carries ?_) _)
    (finds_optional string_carries ?_)) (finds_optional ActionCause.carries ?_)) ?_
  all_goals simp

theorem ConnectAttempt.keeps : ConnectAttempt.reader.Keeps ConnectAttempt.json := by
  refine keeps_flat (fun a => .seq (.map (finds_required string_carries ?_) _)
    (finds_required string_carries ?_)) ?_
  all_goals simp

theorem Erase.keeps : Erase.reader.Keeps Erase.json := by
  refine keeps_flat (fun e => .seq (.seq (.seq (.map (finds_optional uint16_carries ?_) _)
    (finds_optional uint16_carries ?_)) (finds_optional Color.carries ?_))
    (finds_optional Color.carries ?_)) ?_
  all_goals simp

theorem Hello.keeps : Hello.reader.Keeps Hello.json := by
  refine keeps_flat (fun h => .seq (.seq (.map (finds_required string_carries ?_) _)
    (finds_required string_carries ?_)) (finds_required string_carries ?_)) ?_
  all_goals simp

theorem Model.keeps : Model.reader.Keeps Model.json := by
  refine keeps_flat (fun m => .seq (.seq (.map (finds_required uint8_carries ?_) _)
    (finds_required uint16_carries ?_)) (finds_required uint16_carries ?_)) ?_
  all_goals simp

theorem Proxy.keeps : Proxy.reader.Keeps Proxy.json := by
  refine keeps_flat (fun p => .seq (.seq (.map (finds_required string_carries ?_) _)
    (finds_required bool_carries ?_)) (finds_optional uint16_carries ?_)) ?_
  all_goals simp

theorem ScreenMode.keeps : ScreenMode.reader.Keeps ScreenMode.json := by
  refine keeps_flat (fun m => .seq (.seq (.seq (.seq (.seq
    (.map (finds_required uint8_carries ?_) _)
    (finds_required uint16_carries ?_)) (finds_required uint16_carries ?_))
    (finds_defaulted bool_carries ?_)) (finds_defaulted bool_carries ?_))
    (finds_defaulted bool_carries ?_)) ?_
  all_goals simp

theorem Tls.keeps : Tls.reader.Keeps Tls.json := by
  refine keeps_flat (fun t => .seq (.seq (.seq (.map (finds_required bool_carries ?_) _)
    (finds_optional bool_carries ?_)) (finds_optional string_carries ?_))
    (finds_optional string_carries ?_)) ?_
  all_goals simp

theorem Scroll.keeps : Scroll.reader.Keeps Scroll.json := by
  refine keeps_flat (fun s => .seq (.map (finds_optional Color.carries ?_) _)
    (finds_optional Color.carries ?_)) ?_
  all_goals simp

theorem Stats.keeps : Stats.reader.Keeps Stats.json := by
  refine keeps_flat (fun s => .seq (.seq (.seq (.map (finds_required uint64_carries ?_) _)
    (finds_required uint64_carries ?_)) (finds_required uint64_carries ?_))
    (finds_required uint64_carries ?_)) ?_
  all_goals simp

theorem TerminalName.keeps : TerminalName.reader.Keeps TerminalName.json := by
  refine keeps_flat (fun n => .seq (.map (finds_required string_carries ?_) _)
    (finds_required bool_carries ?_)) ?_
  all_goals simp

theorem TraceFile.keeps : TraceFile.reader.Keeps TraceFile.json := by
  refine keeps_flat (fun f => .map (finds_optional string_carries ?_) _) ?_
  all_goals simp

theorem UiError.keeps : UiError.reader.Keeps UiError.json := by
  refine keeps_flat (fun e => .seq (.seq (.seq (.seq (.seq
    (.map (finds_required bool_carries ?_) _)
    (finds_required string_carries ?_)) (finds_optional string_carries ?_))
    (finds_optional string_carries ?_)) (finds_optional uint64_carries ?_))
    (finds_optional uint64_carries ?_)) ?_
  all_goals simp

theorem CodePage.keeps : CodePage.reader.Keeps CodePage.json where
  carries := by
    refine carries_reader fun p => .seq (.map (finds_required string_carries ?_) _)
      (finds_items string_carries ?_)
    all_goals simp
  shallow := by
    refine shallow_reader fun n o find absent p hfind h => ?_
    obtain ⟨g, hg, aliases, ha, rfl⟩ := build_seq_ok.mp h
    obtain ⟨name, -, rfl⟩ := build_map_ok.mp hg
    have haliases := prints_items string_shallow hfind ha
    simpa using haliases

theorem TlsHello.keeps : TlsHello.reader.Keeps TlsHello.json where
  carries := by
    refine carries_reader fun h => .seq (.seq (.map (finds_required bool_carries ?_) _)
      (finds_defaulted string_carries ?_)) (finds_items string_carries ?_)
    all_goals simp
  shallow := by
    refine shallow_reader fun n o find absent p hfind h => ?_
    obtain ⟨g, hg, options, ho, rfl⟩ := build_seq_ok.mp h
    obtain ⟨g', hg', provider, -, rfl⟩ := build_seq_ok.mp hg
    obtain ⟨supported, -, rfl⟩ := build_map_ok.mp hg'
    have hoptions := prints_items string_shallow hfind ho
    simpa using hoptions

theorem Passthru.keeps : Passthru.reader.Keeps Passthru.json where
  carries := by
    refine carries_reader fun p => .seq (.seq (.seq (.map (finds_required string_carries ?_) _)
      (finds_optional string_carries ?_)) (finds_required string_carries ?_))
      (finds_items string_carries ?_)
    all_goals simp
  shallow := by
    refine shallow_reader fun n o find absent p hfind h => ?_
    obtain ⟨g, hg, args, ha, rfl⟩ := build_seq_ok.mp h
    obtain ⟨g', hg', action, -, rfl⟩ := build_seq_ok.mp hg
    obtain ⟨g'', hg'', parent, -, rfl⟩ := build_seq_ok.mp hg'
    obtain ⟨tag, -, rfl⟩ := build_map_ok.mp hg''
    have hargs := prints_items string_shallow hfind ha
    simpa using hargs

namespace Cursor

def members : Cursor → List (String × Json)
  | .disabled => [("enabled", .bool false)]
  | .enabled row column =>
    [("enabled", .bool true), ("row", .word row), ("column", .word column)]

theorem json_eq (c : Cursor) : c.json = .obj c.members := by
  cases c <;> rfl

theorem finds_members (c : Cursor) : record.Finds c.members (.ok c) := by
  cases c with
  | disabled =>
    have h : record.Finds (members .disabled) (ofParts false none none) := by
      refine .seq (.seq (.map (finds_required bool_carries ?_) _)
        (finds_optional uint16_carries ?_)) (finds_optional uint16_carries ?_)
      all_goals simp [members]
    exact h
  | enabled row column =>
    have h : record.Finds (members (.enabled row column))
        (ofParts true (some row) (some column)) := by
      refine .seq (.seq (.map (finds_required bool_carries ?_) _)
        (finds_optional uint16_carries ?_)) (finds_optional uint16_carries ?_)
      all_goals simp [members]
    exact h

theorem keeps : reader.Keeps json where
  carries := by
    refine ⟨?_, fun c => by simp [json_eq]⟩
    intro c o
    have h := (finds_members c).readObject o
    rw [json_eq, Json.normal, Draft.ofJson]
    simp only [reader, Record.reader, h]
    rfl
  shallow := by
    intro o j c hread
    obtain ⟨parts, hparts, -⟩ := bind_eq_ok_iff.mp hread
    rw [json_eq]
    apply Json.prints_obj_of_pos (build_of_reader hparts).1
    cases c <;> simp [members]

end Cursor

namespace OiaField

theorem reads_members (tag : String) {ms : List (String × Json)} {f : OiaField}
    (htag : lastEntry ms tagField = some (.str tag)) (h : (record tag).Finds ms f) :
    reader.Reads (.obj ms) f := by
  intro o
  have hread := h.readObject .buffer
  rw [Json.normal, Draft.ofJson]
  simp only [reader, Draft.findMember_ofMembers, lookup_written, htag, Option.map_some,
    Json.normal, Draft.ofJson]
  exact hread

theorem reads_json (f : OiaField) : reader.Reads f.json f := by
  cases f with
  | compose value char type =>
    refine reads_members "compose" ?_ (.seq (.seq (.map (finds_required bool_carries ?_) _)
      (finds_optional string_carries ?_)) (finds_optional ComposeType.carries ?_))
    all_goals simp [members, tagField]
  | insert value =>
    refine reads_members "insert" ?_ (.map (finds_required bool_carries ?_) _)
    all_goals simp [members, tagField]
  | lock value =>
    refine reads_members "lock" ?_ (.map (finds_optional string_carries ?_) _)
    all_goals simp [members, tagField]
  | lu value printer =>
    refine reads_members "lu" ?_ (.seq (.map (finds_required string_carries ?_) _)
      (finds_optional string_carries ?_))
    all_goals simp [members, tagField]
  | notUndera value =>
    refine reads_members "not-undera" ?_ (.map (finds_required bool_carries ?_) _)
    all_goals simp [members, tagField]
  | reverseInput value =>
    refine reads_members "reverse-input" ?_ (.map (finds_required bool_carries ?_) _)
    all_goals simp [members, tagField]
  | screenTrace value =>
    refine reads_members "screen-trace" ?_ (.map (finds_optional uint64_carries ?_) _)
    all_goals simp [members, tagField]
  | script value =>
    refine reads_members "script" ?_ (.map (finds_required bool_carries ?_) _)
    all_goals simp [members, tagField]
  | timing value =>
    refine reads_members "timing" ?_ (.map (finds_optional string_carries ?_) _)
    all_goals simp [members, tagField]
  | typeahead value =>
    refine reads_members "typeahead" ?_ (.map (finds_required bool_carries ?_) _)
    all_goals simp [members, tagField]
  | unknown => exact reads_members "unknown" rfl (Finds.pure unknown _)

theorem membersPrint (n : Nat) (f : OiaField) : Json.MembersPrint n f.members := by
  cases f <;> simp [members]

theorem keeps : reader.Keeps json where
  carries := ⟨reads_json, fun f => by simp [json]⟩
  shallow := by
    intro o j f hread
    cases j with
    | arr xs => exact Json.prints_obj.mpr (membersPrint _ f)
    | obj ms => exact Json.prints_obj.mpr (membersPrint _ f)
    | _ => cases hread

end OiaField

namespace FileTransfer

def members (t : FileTransfer) : List (String × Json) :=
  t.state.members ++ [("cause", t.cause.json)]

theorem read_members (tag : String) {ms : List (String × Json)} {s : FileTransferState}
    {r : Record FileTransferState} (hr : FileTransferState.record? tag = some r)
    (htag : lastEntry ms FileTransferState.tagField = some (.str tag)) (h : r.Finds ms s) :
    FileTransferState.read (Draft.ofMembers (sortEntries (Json.normalMembers ms))) = .ok s := by
  have hread := h.readObject .buffer
  simp only [FileTransferState.read, Draft.findMember_ofMembers, lookup_written, htag,
    Option.map_some, Json.normal, Draft.ofJson, FileTransferState.nameOf]
  simp only [Bind.bind, Except.bind, hr]
  exact hread

theorem read_state (t : FileTransfer) :
    FileTransferState.read (Draft.ofMembers (sortEntries (Json.normalMembers t.members))) =
      .ok t.state := by
  obtain ⟨state, cause⟩ := t
  cases state with
  | awaiting => exact read_members "awaiting" rfl rfl (Finds.pure _ _)
  | running bytes =>
    refine read_members "running" rfl rfl (.map (finds_required uint64_carries ?_) _)
    simp [members, FileTransferState.members]
  | aborting => exact read_members "aborting" rfl rfl (Finds.pure _ _)
  | complete text success =>
    refine read_members "complete" rfl rfl (.seq (.map (finds_required string_carries ?_) _)
      (finds_required bool_carries ?_))
    all_goals simp [members, FileTransferState.members]

theorem keeps : reader.Keeps json where
  carries := by
    refine ⟨?_, fun t => by simp [json]⟩
    intro t o
    have hcause : (required "cause" ActionCause.reader).Finds t.members t.cause :=
      finds_required ActionCause.carries (by simp [members])
    have hread := hcause.readObject o
    change reader o (Draft.ofJson (Json.normal (.obj t.members))) = _
    simp only [Json.normal, Draft.ofJson, reader, hread, read_state]
    rfl
  shallow := by
    intro o j t hread
    cases j with
    | obj ms =>
      apply Json.prints_obj.mpr
      change Json.MembersPrint _ t.members
      obtain ⟨state, cause⟩ := t
      cases state <;> simp [members, FileTransferState.members]
    | _ => cases hread

end FileTransfer

namespace Payload

theorem read_append {before : List (String × Json)}
    (h : ∀ m ∈ before, m.1 ≠ "count" ∧ m.1 ≠ "text") (after : List (String × Json)) :
    read (Draft.ofMembers (before ++ after)) = read (Draft.ofMembers after) := by
  induction before with
  | nil => rfl
  | cons m before ih =>
    obtain ⟨⟨hcount, htext⟩, hrest⟩ := List.forall_mem_cons.mp h
    simp only [List.cons_append, Draft.ofMembers, read, Option.some.injEq, hcount, htext,
      ↓reduceIte]
    exact ih hrest

theorem ne_of_lookup {ms : List (String × Json)} {k : String} (h : ms.lookup k = none)
    {m : String × Json} (hm : m ∈ ms) : m.1 ≠ k := by
  have hne := List.lookup_eq_none_iff.mp h m hm
  simpa using Ne.symm (by simpa using hne)

theorem read_count {ms : List (String × Json)} {x : Json} (hcount : ms.lookup "count" = some x)
    (htext : ms.lookup "text" = none) :
    read (Draft.ofMembers ms) = (uint64 .buffer (Draft.ofJson x)).map .count := by
  obtain ⟨before, after, rfl, hbefore⟩ := List.lookup_eq_some_iff.mp hcount
  rw [read_append]
  · rfl
  · intro m hm
    have hne := hbefore m hm
    exact ⟨Ne.symm (by simpa using hne), ne_of_lookup htext (List.mem_append_left _ hm)⟩

theorem read_text {ms : List (String × Json)} {x : Json} (hcount : ms.lookup "count" = none)
    (htext : ms.lookup "text" = some x) :
    read (Draft.ofMembers ms) = (string .buffer (Draft.ofJson x)).map .text := by
  obtain ⟨before, after, rfl, hbefore⟩ := List.lookup_eq_some_iff.mp htext
  rw [read_append]
  · rfl
  · intro m hm
    have hne := hbefore m hm
    exact ⟨ne_of_lookup hcount (List.mem_append_left _ hm), Ne.symm (by simpa using hne)⟩

end Payload

namespace Change

def members (c : Change) : List (String × Json) :=
  [("column", .word c.column), c.payload.member] ++ Json.member? "fg" Color.json c.fg ++
    Json.member? "bg" Color.json c.bg ++ Json.member? "gr" .str c.gr

theorem finds_members (c : Change) :
    record.Finds c.members fun payload => ⟨c.column, payload, c.fg, c.bg, c.gr⟩ := by
  obtain ⟨column, payload, fg, bg, gr⟩ := c
  refine .seq (.seq (.seq (.map (finds_required uint16_carries ?_) _)
    (finds_optional Color.carries ?_)) (finds_optional Color.carries ?_))
    (finds_optional string_carries ?_)
  all_goals cases payload <;> simp [members, Payload.member]

theorem read_payload (c : Change) :
    Payload.read (Draft.ofMembers (sortEntries (Json.normalMembers c.members))) =
      .ok c.payload := by
  obtain ⟨column, payload, fg, bg, gr⟩ := c
  cases payload with
  | count n =>
    rw [Payload.read_count (x := (Json.longWord n).normal)]
    · rw [uint64_carries.reads n .buffer]
      rfl
    · rw [lookup_written]
      simp [members, Payload.member]
    · rw [lookup_written]
      simp [members, Payload.member]
  | text s =>
    rw [Payload.read_text (x := (Json.str s).normal)]
    · rw [string_carries.reads s .buffer]
      rfl
    · rw [lookup_written]
      simp [members, Payload.member]
    · rw [lookup_written]
      simp [members, Payload.member]

theorem keeps : reader.Keeps json where
  carries := by
    refine ⟨?_, fun c => by simp [json]⟩
    intro c o
    have hread := (finds_members c).readObject o
    change reader o (Draft.ofJson (Json.normal (.obj c.members))) = _
    simp only [Json.normal, Draft.ofJson, reader, hread, read_payload]
    rfl
  shallow := by
    intro o j c hread
    cases j with
    | obj ms =>
      apply Json.prints_obj.mpr
      change Json.MembersPrint _ c.members
      obtain ⟨column, payload, fg, bg, gr⟩ := c
      cases payload <;> simp [members, Payload.member]
    | _ => cases hread

end Change

theorem RowChanges.keeps : RowChanges.reader.Keeps RowChanges.json where
  carries := by
    refine carries_reader fun r => .seq (.map (finds_required uint16_carries ?_) _)
      (finds_required Change.keeps.carries.list ?_)
    all_goals simp
  shallow := by
    refine shallow_reader fun n o find absent r hfind h => ?_
    obtain ⟨g, hg, changes, hc, rfl⟩ := build_seq_ok.mp h
    obtain ⟨row, -, rfl⟩ := build_map_ok.mp hg
    have hchanges := prints_required Change.keeps.shallow.list hfind hc
    simpa using hchanges

theorem ScreenUpdate.keeps : ScreenUpdate.reader.Keeps ScreenUpdate.json where
  carries := by
    refine carries_reader fun u => .seq (.map (finds_optional Cursor.keeps.carries ?_) _)
      (finds_items RowChanges.keeps.carries ?_)
    all_goals simp
  shallow := by
    refine shallow_reader fun n o find absent u hfind h => ?_
    obtain ⟨g, hg, rows, hr, rfl⟩ := build_seq_ok.mp h
    obtain ⟨cursor, hc, rfl⟩ := build_map_ok.mp hg
    have hcursor := prints_optional Cursor.keeps.shallow hfind hc
    have hrows := prints_items RowChanges.keeps.shallow hfind hr
    simpa using ⟨hcursor, hrows⟩

namespace Setting

theorem reads_json {s : Setting} (h : ∀ x ∈ s.value, x.Canonical ∧ x ≠ .null) :
    reader.Reads s.json s := by
  have hfinds : (mk <$> required "name" string <*> Record.optional "value" Reader.json <*>
      Record.optional "cause" ActionCause.reader).Finds
        ([("name", .str s.name), ("value", s.value.getD .null)] ++
          Json.member? "cause" ActionCause.json s.cause) s := by
    refine .seq (.seq (.map (finds_required string_carries ?_) _) (finds_value h (.inr ?_)))
      (finds_optional ActionCause.carries ?_)
    all_goals simp
  exact fun o => hfinds.readObject o

theorem held_value {o : Origin} {j : Json} {s : Setting} (hj : j.Canonical)
    (h : reader o (Draft.ofJson j) = .ok s) :
    ∀ x ∈ s.value, x.Canonical ∧ x.depth < j.depth ∧ x ≠ .null := by
  obtain ⟨-, find, absent, hinside, hbuild⟩ := build_of_reader h
  obtain ⟨g, hg, cause, -, rfl⟩ := build_seq_ok.mp hbuild
  obtain ⟨g', hg', value, hvalue, rfl⟩ := build_seq_ok.mp hg
  obtain ⟨name, -, rfl⟩ := build_map_ok.mp hg'
  exact held_optional hj hinside hvalue

theorem prints_json {s : Setting} {n : Nat} (hn : 0 < n) (h : ∀ x ∈ s.value, x.Prints (n - 1)) :
    s.json.Prints n := by
  obtain ⟨name, value, cause⟩ := s
  apply Json.prints_obj_of_pos hn
  cases value with
  | none => simp
  | some x => simpa using h

end Setting

namespace Popup

theorem reads_json {p : Popup} (h : ∀ x ∈ p.error, x.Canonical ∧ x ≠ .null) :
    reader.Reads p.json p := by
  have hfinds : (mk <$> required "type" (Reader.named PopupType.names none) <*>
      required "text" string <*> Record.optional "error" Reader.json).Finds
        ([("type", .str p.type.name), ("text", .str p.text)] ++
          Json.member? "error" id p.error) p := by
    refine .seq (.seq (.map (finds_required PopupType.carries ?_) _)
      (finds_required string_carries ?_)) (finds_value h (.inl ?_))
    all_goals simp
  exact fun o => hfinds.readObject o

theorem held_error {o : Origin} {j : Json} {p : Popup} (hj : j.Canonical)
    (h : reader o (Draft.ofJson j) = .ok p) :
    ∀ x ∈ p.error, x.Canonical ∧ x.depth < j.depth ∧ x ≠ .null := by
  obtain ⟨-, find, absent, hinside, hbuild⟩ := build_of_reader h
  obtain ⟨g, hg, error, herror, rfl⟩ := build_seq_ok.mp hbuild
  obtain ⟨g', hg', text, -, rfl⟩ := build_seq_ok.mp hg
  obtain ⟨type, -, rfl⟩ := build_map_ok.mp hg'
  exact held_optional hj hinside herror

theorem prints_json {p : Popup} {n : Nat} (hn : 0 < n) (h : ∀ x ∈ p.error, x.Prints (n - 1)) :
    p.json.Prints n := by
  apply Json.prints_obj_of_pos hn
  simpa using h

end Popup

theorem keeps_single {α : Type} {r : Reader α} {write : α → Json} (h : r.Carries write)
    (hp : ∀ n a, (write a).Prints n) (key : String) :
    (required key r).objectReader.Keeps fun a => .obj [(key, write a)] := by
  refine keeps_object (keeps_flat (fun a => finds_required h (by simp)) ?_) fun a => ⟨_, rfl⟩
  simp [hp]

end Display3270
