import Display3270.Indication.Reader
import Display3270.Proofs.Json.Scanning

namespace Display3270

namespace Indication

theorem decode_eq_ok_iff (text : String) (i : Indication) :
    decode text = .ok i ↔ ∃ j, Json.parse text = .ok j ∧ ofJson j = .ok i := by
  unfold decode
  cases Json.parse text <;> simp

theorem decode_push_return (text : String) (i : Indication) :
    decode (text.push '\r') = .ok i ↔ decode text = .ok i := by
  simp only [decode_eq_ok_iff, Json.parse_push_return]

theorem decode_blank {text : String} (h : text.toList.all isBlank) (i : Indication) :
    decode text ≠ .ok i := by
  rw [ne_eq, decode_eq_ok_iff]
  rintro ⟨j, hj, -⟩
  exact Json.parse_blank h j hj

theorem ofJson_single {tag : String} (h : tag ≠ batchTag) (body : Json) :
    ofJson (.obj [(tag, body)]) = readNotice tag body := by
  cases body <;> simp only [ofJson, h, ↓reduceIte]

theorem readNotice_eq_ok_iff {tag : String} {body : Json} {i : Indication} :
    readNotice tag body = .ok i ↔
      (tag ∉ knownTags ∧ i = .notice (.other tag body)) ∨
        (tag ∈ knownTags ∧ ∃ r n, Notice.readers.lookup tag = some r ∧
          r .value (Draft.ofJson body) = .ok n ∧ i = .notice n) := by
  unfold readNotice
  by_cases hknown : tag ∈ knownTags
  · cases hr : Notice.readers.lookup tag with
    | none => simp [hknown]
    | some r => cases hn : r .value (Draft.ofJson body) <;> simp [hknown, hn, eq_comm]
  · simp [hknown, eq_comm]

theorem readNotice_ok {tag : String} {body : Json} {i : Indication}
    (h : readNotice tag body = .ok i) : ∃ n, i = .notice n := by
  rcases readNotice_eq_ok_iff.mp h with ⟨-, rfl⟩ | ⟨-, r, n, -, -, rfl⟩
  · exact ⟨_, rfl⟩
  · exact ⟨n, rfl⟩

theorem ofJson_ok {j : Json} {i : Indication} (h : ofJson j = .ok i) :
    (∃ tag body, j = .obj [(tag, body)] ∧ tag ≠ batchTag ∧ readNotice tag body = .ok i) ∨
      ∃ items members, j = .obj [(batchTag, .arr items)] ∧ ofItems items = .ok members ∧
        i = .batch members := by
  unfold ofJson at h
  split at h
  case h_1 tag items =>
    split at h
    case isTrue ht =>
      subst ht
      cases hitems : ofItems items with
      | error e =>
        rw [hitems] at h
        cases h
      | ok members =>
        rw [hitems] at h
        cases h
        exact .inr ⟨items, members, rfl, hitems, rfl⟩
    case isFalse ht => exact .inl ⟨tag, .arr items, rfl, ht, h⟩
  case h_2 tag body _ =>
    split at h
    case isTrue => cases h
    case isFalse ht => exact .inl ⟨tag, body, rfl, ht, h⟩
  case h_3 => cases h

theorem ofItems_cons_ok {x : Json} {xs : List Json} {is : List Indication}
    (h : ofItems (x :: xs) = .ok is) :
    ∃ i rest, is = i :: rest ∧ ofJson x = .ok i ∧ ofItems xs = .ok rest := by
  rw [ofItems] at h
  cases hx : ofJson x with
  | error e =>
    rw [hx] at h
    cases h
  | ok i =>
    rw [hx] at h
    cases hxs : ofItems xs with
    | error e =>
      simp only [hxs] at h
      cases h
    | ok rest =>
      simp only [hxs] at h
      cases h
      exact ⟨i, rest, rfl, rfl, rfl⟩

end Indication

end Display3270
