import Display3270.Operation
import Display3270.Proofs.Json.Texts
import Display3270.Proofs.Lines
import Display3270.Proofs.Utf8

namespace Display3270

open Record Reader

theorem Json.prints_strings (n : Nat) (xs : List String) : (Json.strings xs).Prints (n + 1) :=
  prints_arr_map (prints_str n) xs

namespace Action

theorem rereads_json (a : Action) : reader.Rereads a.json a := by
  apply Rebuilds.rereads
  · refine .seq (.map (rebuilds_field (string_rereads _) ?_) _)
      (rebuilds_field (rereads_list string_rereads _) ?_)
    all_goals simp [Json.strings]
  · simp [Distinct]

theorem prints_json (n : Nat) (a : Action) : a.json.Prints (n + 2) := by
  apply Json.prints_obj.mpr
  simp [Json.prints_strings]

end Action

namespace Run

theorem rereads_json (r : Run) : reader.Rereads r.json r := by
  apply Rebuilds.rereads
  · refine .seq (.seq (.map (rebuilds_optional string_rereads (by simp) ?_) _)
      (rebuilds_optional string_rereads (by simp) ?_))
      (rebuilds_field (rereads_list Action.rereads_json _) ?_)
    all_goals simp
  · cases r.rTag <;> cases r.type <;> simp [Distinct, Json.member?]

theorem prints_json (n : Nat) (r : Run) : r.json.Prints (n + 4) := by
  have hactions : (Json.arr (r.actions.map Action.json)).Prints (n + 3) :=
    Json.prints_arr_map (fun a => a.prints_json n) r.actions
  apply Json.prints_obj_of_pos (Nat.succ_pos _)
  simp [hactions]

end Run

namespace Register

theorem rereads_json (r : Register) : reader.Rereads r.json r := by
  apply Rebuilds.rereads
  · refine .seq (.seq (.map (rebuilds_field (string_rereads _) ?_) _)
      (rebuilds_optional string_rereads (by simp) ?_))
      (rebuilds_optional string_rereads (by simp) ?_)
    all_goals simp
  · cases r.helpText <;> cases r.helpParams <;> simp [Distinct, Json.member?]

theorem prints_json (n : Nat) (r : Register) : r.json.Prints (n + 1) := by
  apply Json.prints_obj_of_pos (Nat.succ_pos _)
  simp

end Register

namespace PassthruResult

theorem rereads_json (r : PassthruResult) : reader.Rereads r.json r := by
  apply Rebuilds.rereads
  · refine .seq (.map (rebuilds_field (string_rereads _) ?_) _)
      (rebuilds_items string_rereads ?_)
    all_goals simp
  · cases r.text <;> simp [Distinct, Json.items?]

theorem prints_json (n : Nat) (r : PassthruResult) : r.json.Prints (n + 2) := by
  have htext : (Json.arr (r.text.map .str)).Prints (n + 1) := Json.prints_strings n r.text
  apply Json.prints_obj_of_pos (Nat.succ_pos _)
  simp [htext]

end PassthruResult

namespace Operation

theorem rereads_json (o : Operation) : reader.Rereads o.json o := by
  cases o with
  | run r => exact rereads_choice (r.rereads_json.map Operation.run) rfl
  | register r => exact rereads_choice (r.rereads_json.map Operation.register) rfl
  | fail r => exact rereads_choice (r.rereads_json.map Operation.fail) rfl
  | succeed r => exact rereads_choice (r.rereads_json.map Operation.succeed) rfl

theorem exact_json (o : Operation) : o.json.Exact := by
  have hprints : o.json.Prints 5 := by
    cases o with
    | run r => exact Json.prints_single.mpr (r.prints_json 0)
    | register r => exact Json.prints_single.mpr (r.prints_json 3)
    | fail r => exact Json.prints_single.mpr (r.prints_json 2)
    | succeed r => exact Json.prints_single.mpr (r.prints_json 2)
  exact hprints.1

theorem decode_of_encode (o : Operation) : decode o.encode = .ok o :=
  o.rereads_json.ofText o.exact_json.readAs Json.Spacing.blank_compact

theorem shown_encode (o : Operation) : Json.Shown o.encode.toList := by
  rw [encode, Json.compact, String.toList_ofList]
  exact Json.shown_chars o.json o.exact_json 0

def wire (os : List Operation) : String :=
  String.ofList (os.flatMap fun o => o.encode.toList ++ ['\n'])

theorem lines_wire (os : List Operation) :
    (Content.ofBytes (wire os).toUTF8.data.toList).lines.map Content.text? =
      os.map fun o => some o.encode := by
  have hfeed : ∀ t ∈ os.map encode, '\n' ∉ t.toList := by
    intro t ht hmem
    obtain ⟨o, -, rfl⟩ := List.mem_map.mp ht
    exact absurd (o.shown_encode _ hmem) (by decide)
  have hreturn : ∀ o : Operation, '\r' ∉ o.encode.toList := by
    intro o hmem
    exact absurd (o.shown_encode _ hmem) (by decide)
  have hlines := Content.lines_flatMap hfeed
  rw [List.flatMap_map] at hlines
  rw [Content.ofBytes_toUTF8, Content.ofString, wire, String.toList_ofList, hlines]
  simp [Content.dropReturn_ofString (hreturn _), Content.text?_ofString]

/-- An operation is read back from its text, whatever its arguments hold, and the text has no
control character in it. So a stream of such texts, each followed by a line feed, is cut into
exactly these texts by its lines. -/
theorem decode_encode_wire :
    (∀ o : Operation, decode o.encode = .ok o) ∧
      (∀ o : Operation, ∀ c ∈ o.encode.toList, 0x20 ≤ c.toNat) ∧
      ∀ os : List Operation,
        (Content.ofBytes (wire os).toUTF8.data.toList).lines.map Content.text? =
          os.map fun o => some o.encode :=
  ⟨decode_of_encode, shown_encode, lines_wire⟩

end Operation

end Display3270
