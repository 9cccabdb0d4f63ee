/-!
# The order of texts by their bytes

Texts are ordered by the codes of their characters. Their bytes in UTF-8 are in the same
order: of two characters the one with the smaller code has the smaller byte at the first
place where their bytes differ, and there is such a place.
-/

namespace TableTypes
namespace Unicode

/-- The bytes of a text in UTF-8. -/
def utf8Bytes (text : String) : List UInt8 :=
  text.toByteArray.data.toList

/-- The bytes of a text are those of its characters, in order. -/
theorem utf8Bytes_eq_flatMap (text : String) :
    utf8Bytes text = text.toList.flatMap String.utf8EncodeChar := by
  have encoded : (String.ofList text.toList).toByteArray = text.toList.utf8Encode :=
    String.toByteArray_ofList
  rw [String.ofList_toList] at encoded
  rw [utf8Bytes, encoded]
  exact List.toList_data_toByteArray

/-- Bytes come before others, whatever follows both. -/
def Precedes (first second : List UInt8) : Prop :=
  ∀ rest other, first ++ rest < second ++ other

theorem ofNat_lt_ofNat
    {low high : Nat}
    (below : low < high)
    (small : high < 256) :
    UInt8.ofNat low < UInt8.ofNat high := by
  rw [UInt8.lt_iff_toNat_lt, UInt8.toNat_ofNat', UInt8.toNat_ofNat']
  omega

/-- Bytes with a smaller first byte come first. -/
theorem precedes_cons
    {low high : Nat}
    (below : low < high)
    (small : high < 256)
    (first second : List UInt8) :
    Precedes (UInt8.ofNat low :: first) (UInt8.ofNat high :: second) := fun _ _ =>
  List.cons_lt_cons_iff.mpr (Or.inl (ofNat_lt_ofNat below small))

/-! ## Characters -/

/-- What is left of a code when six bits are taken off for every continuation byte. -/
def leadingBits : Nat -> Nat -> Nat
  | 0, code => code
  | count + 1, code => leadingBits count (code / 64)

/-- The bytes of a code with some continuation bytes, behind a first byte with the mark of
their number. -/
def encoded (mark : Nat) : Nat -> Nat -> List UInt8
  | 0, code => [UInt8.ofNat (code + mark)]
  | count + 1, code => encoded mark count (code / 64) ++ [UInt8.ofNat (code % 64 + 128)]

theorem exists_encoded_eq_cons (mark count code : Nat) :
    ∃ continuation,
      encoded mark count code =
        UInt8.ofNat (leadingBits count code + mark) :: continuation := by
  induction count generalizing code with
  | zero => exact ⟨[], rfl⟩
  | succ count inductionHypothesis =>
      obtain ⟨continuation, shape⟩ := inductionHypothesis (code / 64)
      refine ⟨continuation ++ [UInt8.ofNat (code % 64 + 128)], ?_⟩
      rw [encoded, shape]
      rfl

/-- Codes with as many continuation bytes are in the order of their bytes. -/
theorem precedes_encoded
    {mark count low high : Nat}
    (below : low < high)
    (small : leadingBits count high + mark < 256) :
    Precedes (encoded mark count low) (encoded mark count high) := by
  induction count generalizing low high with
  | zero => exact precedes_cons (Nat.add_lt_add_right below mark) small [] []
  | succ count inductionHypothesis =>
      intro rest other
      rw [encoded, encoded, List.append_assoc, List.append_assoc]
      rcases Nat.lt_or_eq_of_le (Nat.div_le_div_right (Nat.le_of_lt below)) with
        less | equal
      · exact inductionHypothesis less small _ _
      · -- The lowest six bits decide when all others are the same.
        rw [equal]
        exact List.append_left_lt (precedes_cons (by omega) (by omega) [] [] rest other)

/-- The number of continuation bytes of a code. -/
def continuationCount (code : Nat) : Nat :=
  if code ≤ 127 then 0 else if code ≤ 2047 then 1 else if code ≤ 65535 then 2 else 3

/-- The mark of a number of continuation bytes. -/
def countMark : Nat -> Nat
  | 0 => 0
  | 1 => 192
  | 2 => 224
  | _ => 240

/-- The number of the first byte of a code. -/
def firstByte (code : Nat) : Nat :=
  leadingBits (continuationCount code) code + countMark (continuationCount code)

theorem continuationCount_cases (code : Nat) :
    code ≤ 127 ∧ continuationCount code = 0 ∨
      127 < code ∧ code ≤ 2047 ∧ continuationCount code = 1 ∨
      2047 < code ∧ code ≤ 65535 ∧ continuationCount code = 2 ∨
      65535 < code ∧ continuationCount code = 3 := by
  unfold continuationCount
  split
  · omega
  · split
    · omega
    · split
      · omega
      · omega

/-- The first byte shows the number of continuation bytes. -/
theorem firstByte_bounds {code : Nat} (bound : code < 0x110000) :
    continuationCount code = 0 ∧ firstByte code ≤ 127 ∨
      continuationCount code = 1 ∧ 192 ≤ firstByte code ∧ firstByte code ≤ 223 ∨
      continuationCount code = 2 ∧ 224 ≤ firstByte code ∧ firstByte code ≤ 239 ∨
      continuationCount code = 3 ∧ 240 ≤ firstByte code ∧ firstByte code ≤ 244 := by
  rcases continuationCount_cases code with
    ⟨_, count⟩ | ⟨_, _, count⟩ | ⟨_, _, count⟩ | ⟨_, count⟩
  · have first : firstByte code = code := by rw [firstByte, count]; rfl
    omega
  · have first : firstByte code = code / 64 + 192 := by rw [firstByte, count]; rfl
    omega
  · have first : firstByte code = code / 64 / 64 + 224 := by rw [firstByte, count]; rfl
    omega
  · have first : firstByte code = code / 64 / 64 / 64 + 240 := by rw [firstByte, count]; rfl
    omega

theorem toNat_lt_of_char (c : Char) : c.toNat < 0x110000 := by
  have valid : c.toNat < 0xD800 ∨ 0xDFFF < c.toNat ∧ c.toNat < 0x110000 := c.valid
  omega

/-- The bytes of a character are those of its code, with as many continuation bytes as the
code needs. -/
theorem utf8EncodeChar_eq_encoded (c : Char) :
    String.utf8EncodeChar c =
      encoded (countMark (continuationCount c.toNat)) (continuationCount c.toNat)
        c.toNat := by
  have bound := toNat_lt_of_char c
  rw [String.utf8EncodeChar, ← Char.toNat]
  generalize c.toNat = code at bound ⊢
  rcases continuationCount_cases code with
    ⟨one, count⟩ | ⟨notOne, two, count⟩ | ⟨notTwo, three, count⟩ | ⟨notThree, count⟩
  · rw [if_pos one, count]
    rfl
  · have bits : code / 64 % 32 = code / 64 := by omega
    rw [if_neg (by omega), if_pos two, bits, count]
    rfl
  · have bits : code / 4096 % 16 = code / 64 / 64 := by omega
    rw [if_neg (by omega), if_neg (by omega), if_pos three, bits, count]
    rfl
  · have bits : code / 262144 % 8 = code / 64 / 64 / 64 := by omega
    have others : code / 4096 = code / 64 / 64 := by omega
    rw [if_neg (by omega), if_neg (by omega), if_neg (by omega), bits, others, count]
    rfl

/-- The bytes of a character come before those of a character with a greater code. -/
theorem precedes_utf8EncodeChar {c d : Char} (below : c < d) :
    Precedes (String.utf8EncodeChar c) (String.utf8EncodeChar d) := by
  have codes : c.toNat < d.toNat := below
  have counts := continuationCount_cases c.toNat
  have otherCounts := continuationCount_cases d.toNat
  have firstBounds := firstByte_bounds (toNat_lt_of_char c)
  have secondBounds := firstByte_bounds (toNat_lt_of_char d)
  have small : firstByte d.toNat < 256 := by omega
  rw [utf8EncodeChar_eq_encoded, utf8EncodeChar_eq_encoded]
  by_cases same : continuationCount c.toNat = continuationCount d.toNat
  · rw [same]
    exact precedes_encoded codes small
  · obtain ⟨first, firstShape⟩ := exists_encoded_eq_cons _ _ c.toNat
    obtain ⟨second, secondShape⟩ := exists_encoded_eq_cons _ _ d.toNat
    have firstLess : firstByte c.toNat < firstByte d.toNat := by omega
    rw [firstShape, secondShape]
    exact precedes_cons firstLess small first second

/-! ## Texts -/

/-- Texts with smaller codes have smaller bytes. -/
theorem utf8Bytes_lt_of_lt {first second : String} (below : first < second) :
    utf8Bytes first < utf8Bytes second := by
  rw [utf8Bytes_eq_flatMap, utf8Bytes_eq_flatMap]
  have ordered : first.toList < second.toList := below
  generalize first.toList = text at ordered ⊢
  generalize second.toList = other at ordered ⊢
  induction text generalizing other with
  | nil =>
      cases other with
      | nil => exact absurd ordered (List.not_lt_nil _)
      | cons d other =>
          obtain ⟨continuation, shape⟩ := exists_encoded_eq_cons _ _ d.toNat
          rw [List.flatMap_nil, List.flatMap_cons, utf8EncodeChar_eq_encoded, shape]
          exact List.nil_lt_cons _ _
  | cons c text inductionHypothesis =>
      cases other with
      | nil => exact absurd ordered (List.not_lt_nil _)
      | cons d other =>
          rw [List.flatMap_cons, List.flatMap_cons]
          rcases List.cons_lt_cons_iff.mp ordered with less | ⟨rfl, rest⟩
          · exact precedes_utf8EncodeChar less _ _
          · exact List.append_left_lt (inductionHypothesis other rest)

end Unicode
end TableTypes
