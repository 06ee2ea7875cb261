import Display3270.Text.Lines

namespace Display3270

namespace Content

theorem toNat_ofNat_of_lt {n : Nat} (h : n < 256) : (UInt8.ofNat n).toNat = n := by
  rw [UInt8.toNat_ofNat']
  omega

theorem continuation_cons (code m : Nat) (hm : m < 64) (bs : List UInt8) :
    continuation code (UInt8.ofNat (m + 128) :: bs) = continuation (code * 64 + m) bs := by
  have hhigh : (m + 128) / 64 = 2 := by omega
  have hlow : (m + 128) % 64 = m := by omega
  rw [continuation, toNat_ofNat_of_lt (by omega), hhigh, hlow]
  rfl

theorem scalar?_val (c : Char) : scalar? (String.utf8EncodeChar c).length c.val.toNat = some c := by
  have hc : Char.ofNat c.val.toNat = c := Char.ofNat_toNat c
  rw [String.length_utf8EncodeChar, scalar?, hc]
  exact if_pos ⟨rfl, rfl⟩

theorem firstChar?_encode (c : Char) (rest : List UInt8) :
    firstChar? (String.utf8EncodeChar c ++ rest) = some c := by
  have hscalar := scalar?_val c
  have hmax : c.val.toNat < 0x110000 := by
    rcases c.valid with h | ⟨-, h⟩
    · exact Nat.lt_trans h (by decide)
    · exact h
  revert hscalar hmax
  unfold String.utf8EncodeChar
  generalize c.val.toNat = v
  intro hscalar hmax
  simp only at hscalar ⊢
  split at hscalar
  case isTrue h1 =>
    have hc : Char.ofNat v = c := by
      simp only [scalar?, Option.ite_none_right_eq_some, Option.some.injEq] at hscalar
      exact hscalar.2
    rw [if_pos h1, List.singleton_append, firstChar?, toNat_ofNat_of_lt (by omega)]
    simp only [hc, if_pos (show v < 0x80 by omega)]
  case isFalse h1 =>
    rw [if_neg h1]
    split at hscalar
    case isTrue h2 =>
      have hcont : continuation (v / 64) [.ofNat (v % 64 + 128)] = some v := by
        rw [continuation_cons _ _ (by omega), continuation]
        congr 1
        omega
      rw [if_pos h2, List.cons_append, firstChar?, toNat_ofNat_of_lt (by omega)]
      simp only [if_neg (show ¬v / 64 % 32 + 192 < 0x80 by omega),
        if_pos (show (v / 64 % 32 + 192) / 32 = 6 by omega),
        show (v / 64 % 32 + 192) % 32 = v / 64 by omega]
      rw [if_neg (by simp)]
      change (continuation _ [_]).bind _ = _
      rw [hcont]
      exact hscalar
    case isFalse h2 =>
      rw [if_neg h2]
      split at hscalar
      case isTrue h3 =>
        have hcont : continuation (v / 4096)
            [.ofNat (v / 64 % 64 + 128), .ofNat (v % 64 + 128)] = some v := by
          rw [continuation_cons _ _ (by omega), continuation_cons _ _ (by omega), continuation]
          congr 1
          omega
        rw [if_pos h3, List.cons_append, firstChar?, toNat_ofNat_of_lt (by omega)]
        simp only [if_neg (show ¬v / 4096 % 16 + 224 < 0x80 by omega),
          if_neg (show ¬(v / 4096 % 16 + 224) / 32 = 6 by omega),
          if_pos (show (v / 4096 % 16 + 224) / 16 = 14 by omega),
          show (v / 4096 % 16 + 224) % 16 = v / 4096 by omega]
        rw [if_neg (by simp)]
        change (continuation _ [_, _]).bind _ = _
        rw [hcont]
        exact hscalar
      case isFalse h3 =>
        have hcont : continuation (v / 262144) [.ofNat (v / 4096 % 64 + 128),
            .ofNat (v / 64 % 64 + 128), .ofNat (v % 64 + 128)] = some v := by
          rw [continuation_cons _ _ (by omega), continuation_cons _ _ (by omega),
            continuation_cons _ _ (by omega), continuation]
          congr 1
          omega
        rw [if_neg h3, List.cons_append, firstChar?, toNat_ofNat_of_lt (by omega)]
        simp only [if_neg (show ¬v / 262144 % 8 + 240 < 0x80 by omega),
          if_neg (show ¬(v / 262144 % 8 + 240) / 32 = 6 by omega),
          if_neg (show ¬(v / 262144 % 8 + 240) / 16 = 14 by omega),
          if_pos (show (v / 262144 % 8 + 240) / 8 = 30 by omega),
          show (v / 262144 % 8 + 240) % 8 = v / 262144 by omega]
        rw [if_neg (by simp)]
        change (continuation _ [_, _, _]).bind _ = _
        rw [hcont]
        exact hscalar

theorem decodeFrom_skip (skipped bs : List UInt8) :
    decodeFrom skipped.length (skipped ++ bs) = decodeFrom 0 bs := by
  induction skipped with
  | nil => rfl
  | cons b skipped ih => rw [List.length_cons, List.cons_append, decodeFrom, ih]

theorem decodeFrom_encode (c : Char) (bs : List UInt8) :
    decodeFrom 0 (String.utf8EncodeChar c ++ bs) = some c :: decodeFrom 0 bs := by
  have hfirst := firstChar?_encode c bs
  have hlen := String.length_utf8EncodeChar c
  cases hb : String.utf8EncodeChar c with
  | nil =>
    rw [hb] at hlen
    exact absurd hlen.symm (Nat.ne_of_gt c.utf8Size_pos)
  | cons b tail =>
    rw [hb] at hfirst hlen
    have hskip : c.utf8Size - 1 = tail.length := by rw [← hlen]; simp
    rw [List.cons_append] at hfirst ⊢
    simp only [decodeFrom, hfirst, hskip]
    rw [decodeFrom_skip]

theorem ofBytes_toUTF8 (s : String) : ofBytes s.toUTF8.data.toList = ofString s := by
  have hchars : ∀ cs : List Char,
      decodeFrom 0 (cs.flatMap String.utf8EncodeChar) = cs.map some := by
    intro cs
    induction cs with
    | nil => rfl
    | cons c cs ih => rw [List.flatMap_cons, decodeFrom_encode, ih, List.map_cons]
  have hbytes : s.toUTF8.data.toList = s.toList.flatMap String.utf8EncodeChar := by
    rw [String.toUTF8, ← String.utf8Encode_toList, List.utf8Encode, List.data_toByteArray]
  rw [ofBytes, ofString, hbytes, hchars]

end Content

end Display3270
