import TableTypes.Json.Number
import TableTypes.Json.Text
import TableTypes.Json.Value

/-!
# Reading printed literals

A printed text reads as the text, whatever characters it holds, and the printed digits
of a number of 64 bits read as this number. In both cases the reading stops at the end
of the literal and leaves what follows.
-/

namespace TableTypes
namespace Json

/-! ## Texts -/

/-- The form of a control character without a letter of its own: four hexadecimal
digits, which have its number. -/
theorem controlForm_isUnit :
    ∀ code < 32,
      let digits := Nat.toDigits 16 code
      let padded := List.replicate (4 - digits.length) '0' ++ digits
      padded.length = 4 ∧
        hexUnit? (padded.getD 0 ' ') (padded.getD 1 ' ') (padded.getD 2 ' ')
          (padded.getD 3 ' ') = some code := by
  decide

/-- The form of a control character reads as this character. -/
theorem readBody_controlForm_append
    {c : Char}
    (isControl : c < ' ')
    (rest : List Char) :
    let digits := Nat.toDigits 16 c.toNat
    readBody
        ('\\' :: 'u' :: (List.replicate (4 - digits.length) '0' ++ digits) ++ rest) =
      prepend c (readBody rest) := by
  intro digits
  obtain ⟨size, value⟩ := controlForm_isUnit c.toNat isControl
  obtain ⟨a, b, d, e, shape⟩ :
      ∃ a b d e, List.replicate (4 - digits.length) '0' ++ digits = [a, b, d, e] := by
    match List.replicate (4 - digits.length) '0' ++ digits, size with
    | [a, b, d, e], _ => exact ⟨a, b, d, e, rfl⟩
  have unit : hexUnit? a b d e = some c.toNat := by
    rw [shape] at value
    exact value
  have small : c.toNat < 32 := isControl
  have notTrailing : isTrailingHalf c.toNat = false := by
    simp only [isTrailingHalf, Bool.and_eq_false_iff, decide_eq_false_iff_not]
    omega
  have notLeading : isLeadingHalf c.toNat = false := by
    simp only [isLeadingHalf, Bool.and_eq_false_iff, decide_eq_false_iff_not]
    omega
  rw [shape]
  simp only [List.cons_append, List.nil_append]
  rw [readBody, unit]
  simp [notTrailing, notLeading]

/-- Within a text literal the form of a character reads as this character. -/
theorem readBody_escapeText_append (c : Char) (rest : List Char) :
    readBody (escapeText c ++ rest) = prepend c (readBody rest) := by
  unfold escapeText
  split
  case h_8 notQuote notBackslash _ _ _ _ _ =>
    split
    next isControl => exact readBody_controlForm_append isControl rest
    next notControl =>
      rw [List.singleton_append, readBody]
      · exact if_neg notControl
      all_goals simp_all
  all_goals rfl

/-- The characters of a text literal after its opening quote read as the text. -/
theorem readBody_escaped_append (text rest : List Char) :
    readBody (text.flatMap escapeText ++ '"' :: rest) = .ok (text, rest) := by
  induction text with
  | nil => rfl
  | cons c text inductionHypothesis =>
      rw [List.flatMap_cons, List.append_assoc, readBody_escapeText_append,
        inductionHypothesis]
      rfl

/-! ## Numbers -/

/-- What may follow a value within a document: nothing, or the mark behind an element,
a list or a record. -/
inductive Closes : List Char -> Prop where
  | nothing : Closes []
  | comma (rest : List Char) : Closes (',' :: rest)
  | bracket (rest : List Char) : Closes (']' :: rest)
  | brace (rest : List Char) : Closes ('\x7d' :: rest)

/-- Behind its digits a number of 64 bits is complete. -/
theorem readWhole_closed
    {rest : List Char}
    (closes : Closes rest)
    (significand : Nat) :
    readWhole false significand rest = .ok (.integer significand, rest) := by
  cases closes <;> rfl

/-- Digits, one after another, make up the number that they spell. -/
theorem readWhole_digits_append
    {digits rest : List Char}
    (areDigits : ∀ c ∈ digits, c.isDigit = true)
    (closes : Closes rest)
    {significand : Nat}
    (small : Nat.ofDigitChars 10 digits significand < Nat.pow 2 64) :
    readWhole false significand (digits ++ rest) =
      .ok (.integer (Nat.ofDigitChars 10 digits significand), rest) := by
  induction digits generalizing significand with
  | nil =>
      rw [List.nil_append, Nat.ofDigitChars_nil]
      exact readWhole_closed closes significand
  | cons c digits inductionHypothesis =>
      obtain ⟨isDigit, othersDigits⟩ := List.forall_mem_cons.mp areDigits
      have step :
          Nat.ofDigitChars 10 (c :: digits) significand =
            Nat.ofDigitChars 10 digits (significand * 10 + digitValue c) := by
        rw [Nat.ofDigitChars_cons, Nat.mul_comm]
        rfl
      rw [step] at small ⊢
      have below :
          significand * 10 + digitValue c ≤
            Nat.ofDigitChars 10 digits (significand * 10 + digitValue c) := by
        rw [Nat.ofDigitChars_eq_ofDigitChars_zero]
        exact Nat.le_trans (Nat.le_mul_of_pos_left _ (Nat.pow_pos (by decide : 0 < 10)))
          (Nat.le_add_right _ _)
      have fitting : fits significand (digitValue c) = true :=
        decide_eq_true (Nat.lt_of_le_of_lt below small)
      rw [List.cons_append, readWhole, if_pos isDigit, if_pos fitting]
      exact inductionHypothesis othersDigits small

/-- A number has a first digit. -/
theorem exists_first_digit (value : Nat) :
    ∃ c digits, Nat.toDigits 10 value = c :: digits ∧ c.isDigit = true := by
  obtain ⟨c, digits, shape⟩ := List.exists_cons_of_ne_nil
    (Nat.toDigits_ne_nil : Nat.toDigits 10 value ≠ [])
  exact ⟨c, digits, shape,
    Nat.isDigit_of_mem_toDigits (by decide) (by decide) (shape ▸ List.mem_cons_self)⟩

/-- The digits of a positive number do not start with zero. -/
theorem toDigits_eq_cons
    {value : Nat}
    (positive : 0 < value) :
    ∃ c digits, Nat.toDigits 10 value = c :: digits ∧ c ≠ '0' := by
  induction value using Nat.strongRecOn with
  | ind value inductionHypothesis =>
      rcases Nat.lt_or_ge value 10 with small | large
      · refine ⟨value.digitChar, [], Nat.toDigits_of_lt_base small, ?_⟩
        rw [ne_eq, Nat.digitChar_eq_zero]
        exact Nat.ne_of_gt positive
      · obtain ⟨c, digits, shape, notZero⟩ :=
          inductionHypothesis (value / 10) (by omega) (by omega)
        refine ⟨c, digits ++ [(value % 10).digitChar], ?_, notZero⟩
        rw [Nat.toDigits_of_base_le (by decide) large, shape, List.cons_append]

/-- The printed digits of a number read as the number. -/
theorem readNumber_toDigits_append
    {value : Nat}
    (small : value < Nat.pow 2 64)
    {rest : List Char}
    (closes : Closes rest) :
    readNumber (Nat.toDigits 10 value ++ rest) = .ok (.integer value, rest) := by
  rcases Nat.eq_zero_or_pos value with rfl | positive
  · rw [Nat.toDigits_zero]
    cases closes <;> rfl
  · obtain ⟨c, digits, shape, notZero⟩ := toDigits_eq_cons positive
    have areDigits : ∀ c ∈ Nat.toDigits 10 value, c.isDigit = true := fun _ member =>
      Nat.isDigit_of_mem_toDigits (by decide) (by decide) member
    have spelled : Nat.ofDigitChars 10 (Nat.toDigits 10 value) 0 = value :=
      Nat.ofDigitChars_toDigits (by decide) (by decide)
    rw [shape] at areDigits spelled ⊢
    obtain ⟨isDigit, othersDigits⟩ := List.forall_mem_cons.mp areDigits
    have notSign : c ≠ '-' := by
      rintro rfl
      exact absurd isDigit (by decide)
    have spelledRest : Nat.ofDigitChars 10 digits (digitValue c) = value := by
      rw [Nat.ofDigitChars_cons, Nat.mul_zero, Nat.zero_add] at spelled
      exact spelled
    rw [List.cons_append, readNumber, readUnsigned, if_pos isDigit,
      readWhole_digits_append othersDigits closes (spelledRest ▸ small), spelledRest]
    all_goals simp_all

end Json
end TableTypes
