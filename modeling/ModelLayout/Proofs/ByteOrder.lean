/-!
# The order of texts is the order of their bytes

Texts are compared character by character.  A character with a larger code has the larger encoding,
and no encoding is the beginning of another one, so comparing the encodings byte by byte gives the
same answer.

## Main definitions

* `Text.bytes` — the bytes of a text.

## Main results

* `Text.encoding_lt` — the encodings of characters are in the order of their codes.
* `Text.le_iff_bytes_le`, `Text.lt_iff_bytes_lt` — texts are in the order of their bytes.
-/

namespace ModelLayout
namespace Text

/-- The bytes of a text. -/
def bytes (s : String) : List UInt8 :=
  s.toUTF8.data.toList

theorem bytes_eq_flatMap (s : String) : bytes s = s.toList.flatMap String.utf8EncodeChar := by
  have hbytes : s.toUTF8 = s.toList.utf8Encode := by
    rw [String.toUTF8_eq_toByteArray, ← String.toByteArray_ofList, String.ofList_toList]
  rw [bytes, hbytes, List.utf8Encode, List.data_toByteArray]

/-! ### Characters -/

/-- Lists that start with different bytes, or with the same byte and go on in order. -/
theorem cons_lt_cons {m n : Nat} (hm : m < 256) (hn : n < 256) {xs ys : List UInt8}
    (h : m < n ∨ (m = n ∧ xs < ys)) : UInt8.ofNat m :: xs < UInt8.ofNat n :: ys := by
  rw [List.cons_lt_cons_iff]
  rcases h with hlt | ⟨rfl, hlt⟩
  · refine Or.inl ?_
    rw [UInt8.lt_iff_toNat_lt, UInt8.toNat_ofNat_of_lt' hm, UInt8.toNat_ofNat_of_lt' hn]
    exact hlt
  · exact Or.inr ⟨rfl, hlt⟩

/-- The byte that holds the last six bits of a code. -/
def lastByte (v : Nat) : UInt8 :=
  UInt8.ofNat (v % 64 + 128)

/-- The first byte of the encoding of the code `v`: it tells how many bytes follow, and holds the bits
that they do not hold. -/
def firstByte (v : Nat) : Nat :=
  if v ≤ 127 then v
  else if v ≤ 2047 then v / 64 % 32 + 192
  else if v ≤ 65535 then v / 4096 % 16 + 224
  else v / 262144 % 8 + 240

/-- The other bytes of the encoding of the code `v`: six bits each, from the top. -/
def laterBytes (v : Nat) : List UInt8 :=
  if v ≤ 127 then []
  else if v ≤ 2047 then [lastByte v]
  else if v ≤ 65535 then [lastByte (v / 64), lastByte v]
  else [lastByte (v / 4096), lastByte (v / 64), lastByte v]

theorem utf8EncodeChar_eq (c : Char) :
    String.utf8EncodeChar c = UInt8.ofNat (firstByte c.toNat) :: laterBytes c.toNat := by
  unfold String.utf8EncodeChar firstByte laterBytes
  simp only [Char.toNat, lastByte]
  split
  · rfl
  · split
    · rfl
    · split <;> rfl

section Codes

variable {v w : Nat} {xs ys : List UInt8}

/-- The four lengths of an encoding. -/
theorem encoding_cases (hmax : v < 1114112) :
    (v ≤ 127 ∧ firstByte v = v ∧ laterBytes v = []) ∨
      (127 < v ∧ v ≤ 2047 ∧ firstByte v = v / 64 + 192 ∧ laterBytes v = [lastByte v]) ∨
      (2047 < v ∧ v ≤ 65535 ∧ firstByte v = v / 4096 + 224 ∧
        laterBytes v = [lastByte (v / 64), lastByte v]) ∨
      (65535 < v ∧ firstByte v = v / 262144 + 240 ∧
        laterBytes v = [lastByte (v / 4096), lastByte (v / 64), lastByte v]) := by
  unfold firstByte laterBytes
  by_cases hone : v ≤ 127
  · simp [hone]
  · by_cases htwo : v ≤ 2047
    · simp [hone, htwo]
      omega
    · by_cases hthree : v ≤ 65535
      · simp [hone, htwo, hthree]
        omega
      · simp [hone, htwo, hthree]
        omega

theorem lastByte_cons_lt (h : v % 64 < w % 64) : lastByte v :: xs < lastByte w :: ys :=
  cons_lt_cons (by omega) (by omega) (Or.inl (by omega))

theorem twoBytes_cons_lt (h : v % 4096 < w % 4096) :
    lastByte (v / 64) :: lastByte v :: xs < lastByte (w / 64) :: lastByte w :: ys := by
  apply cons_lt_cons (by omega) (by omega)
  rcases Nat.lt_or_ge (v / 64 % 64) (w / 64 % 64) with hlt | hge
  · exact Or.inl (by omega)
  · exact Or.inr ⟨by omega, lastByte_cons_lt (by omega)⟩

theorem threeBytes_cons_lt (h : v % 262144 < w % 262144) :
    lastByte (v / 4096) :: lastByte (v / 64) :: lastByte v :: xs <
      lastByte (w / 4096) :: lastByte (w / 64) :: lastByte w :: ys := by
  apply cons_lt_cons (by omega) (by omega)
  rcases Nat.lt_or_ge (v / 4096 % 64) (w / 4096 % 64) with hlt | hge
  · exact Or.inl (by omega)
  · exact Or.inr ⟨by omega, twoBytes_cons_lt (by omega)⟩

/-- Where the first bytes are the same, as many bytes follow, and these are in order. -/
theorem laterBytes_lt (h : v < w) (hmax : w < 1114112) (hfirst : firstByte v = firstByte w) :
    laterBytes v ++ xs < laterBytes w ++ ys := by
  rcases encoding_cases (Nat.lt_trans h hmax) with hv | hv | hv | hv <;>
    rcases encoding_cases hmax with hw | hw | hw | hw <;> try omega
  · rw [hv.2.2.2, hw.2.2.2]
    exact lastByte_cons_lt (by omega)
  · rw [hv.2.2.2, hw.2.2.2]
    exact twoBytes_cons_lt (by omega)
  · rw [hv.2.2, hw.2.2]
    exact threeBytes_cons_lt (by omega)

/-- The encoding of a code comes before that of a larger one, whatever follows them. -/
theorem encoding_lt (h : v < w) (hmax : w < 1114112) :
    UInt8.ofNat (firstByte v) :: (laterBytes v ++ xs) <
      UInt8.ofNat (firstByte w) :: (laterBytes w ++ ys) := by
  have hcases := encoding_cases (Nat.lt_trans h hmax)
  have hcases' := encoding_cases hmax
  refine cons_lt_cons (by omega) (by omega) ?_
  rcases Nat.lt_or_ge (firstByte v) (firstByte w) with hlt | hge
  · exact Or.inl hlt
  · have hfirst : firstByte v = firstByte w := by omega
    exact Or.inr ⟨hfirst, laterBytes_lt h hmax hfirst⟩

end Codes

/-! ### Texts -/

theorem toNat_lt_max (c : Char) : c.toNat < 1114112 := by
  have hvalid : c.toNat < 0xd800 ∨ 0xdfff < c.toNat ∧ c.toNat < 0x110000 := c.valid
  omega

theorem flatMap_utf8EncodeChar_lt {cs ds : List Char} (h : cs < ds) :
    cs.flatMap String.utf8EncodeChar < ds.flatMap String.utf8EncodeChar := by
  induction cs generalizing ds with
  | nil =>
    cases ds with
    | nil => cases h
    | cons d ds =>
      rw [List.flatMap_cons, utf8EncodeChar_eq]
      exact List.Lex.nil
  | cons c cs ih =>
    cases ds with
    | nil => cases h
    | cons d ds =>
      rw [List.flatMap_cons, List.flatMap_cons]
      rcases List.cons_lt_cons_iff.1 h with hlt | ⟨rfl, hlt⟩
      · rw [utf8EncodeChar_eq, utf8EncodeChar_eq]
        exact encoding_lt hlt (toNat_lt_max d)
      · exact List.append_left_lt (ih hlt)

theorem bytes_lt_of_lt {a b : String} (h : a < b) : bytes a < bytes b := by
  rw [bytes_eq_flatMap, bytes_eq_flatMap]
  exact flatMap_utf8EncodeChar_lt h

theorem lt_iff_bytes_lt {a b : String} : a < b ↔ bytes a < bytes b := by
  refine ⟨bytes_lt_of_lt, fun h => ?_⟩
  by_cases hab : a < b
  · exact hab
  · -- then the texts are equal, or in the other order
    have hle : b ≤ a := String.not_lt.1 hab
    by_cases hba : b < a
    · exact absurd h (List.lt_asymm (bytes_lt_of_lt hba))
    · have heq : a = b := String.le_antisymm (String.not_lt.1 hba) hle
      rw [heq] at h
      exact absurd h (List.lt_irrefl _)

/-- **Texts are in the order of their bytes.** -/
theorem le_iff_bytes_le {a b : String} : a ≤ b ↔ bytes a ≤ bytes b := by
  rw [← String.not_lt, ← List.not_lt, lt_iff_bytes_lt]

end Text
end ModelLayout
