import TableTypes.Proofs.Script.QuotedReading
import TableTypes.Script.TypeExpression

/-!
# Type expressions on one line

Builders, options, digits and identifiers are free of line feeds, and so is the
expression of every field type, however deep it is nested.
-/

namespace TableTypes
namespace Script

/-- A number in decimal digits stands on one line. -/
theorem lineFeed_notMem_repr (value : Nat) :
    '\n' ∉ (Nat.repr value).toList := by
  intro member
  rw [Nat.toList_repr] at member
  have isDigit := Nat.isDigit_of_mem_toDigits (by decide) (by decide) member
  exact absurd isDigit (by decide)

/-- An integer in decimal digits stands on one line. -/
theorem lineFeed_notMem_decimal (value : Int) :
    '\n' ∉ (decimal value).toList := by
  cases value with
  | ofNat value => exact lineFeed_notMem_repr value
  | negSucc value =>
      rw [decimal, String.toList_append, List.mem_append, not_or]
      exact ⟨by decide, lineFeed_notMem_repr (value + 1)⟩

/-- Texts on one line stay on one line when they are listed with commas. -/
theorem lineFeed_notMem_intercalate
    (texts : List String)
    (none : ∀ text ∈ texts, '\n' ∉ text.toList) :
    '\n' ∉ (String.intercalate ", " texts).toList := by
  induction texts with
  | nil => decide
  | cons first rest inductionHypothesis =>
      have inFirst := none first List.mem_cons_self
      have inRest := inductionHypothesis fun text member =>
        none text (List.mem_cons_of_mem first member)
      cases rest with
      | nil => simpa using inFirst
      | cons second rest =>
          rw [String.intercalate_cons_cons, String.toList_append,
            String.toList_append]
          simp only [List.mem_append, not_or]
          exact ⟨⟨inFirst, by decide⟩, inRest⟩

/-- Options on one line make an object on one line. -/
theorem lineFeed_notMem_optionObject
    (options : List String)
    (none : ∀ option ∈ options, '\n' ∉ option.toList) :
    '\n' ∉ (optionObject options).toList := by
  unfold optionObject
  split
  · decide
  · rw [String.toList_append, String.toList_append]
    simp only [List.mem_append, not_or]
    exact ⟨⟨by decide, lineFeed_notMem_intercalate options none⟩, by decide⟩

/-- The options of a text stand on one line. -/
theorem lineFeed_notMem_textOptions
    (limits : TextLimits) :
    ∀ option ∈ textOptions limits, '\n' ∉ option.toList := by
  intro option member
  simp only [textOptions, List.mem_append, Option.mem_toList,
    Option.map_eq_some_iff] at member
  rcases member with ⟨length, _, rfl⟩ | ⟨format, _, rfl⟩
  · rw [String.toList_append, List.mem_append, not_or]
    exact ⟨by decide, lineFeed_notMem_repr length.toNat⟩
  · rw [String.toList_append, List.mem_append, not_or]
    exact ⟨by decide, lineFeed_notMem_quoted format.tag⟩

/-- The options of a number stand on one line. -/
theorem lineFeed_notMem_numberOptions
    (limits : NumberLimits) :
    ∀ option ∈ numberOptions limits, '\n' ∉ option.toList := by
  intro option member
  simp only [numberOptions, Option.mem_toList, Option.map_eq_some_iff] at member
  obtain ⟨minimum, _, rfl⟩ := member
  rw [String.toList_append, List.mem_append, not_or]
  exact ⟨by decide, lineFeed_notMem_decimal minimum.toInt⟩

/-- A call stands on one line with its argument. -/
theorem lineFeed_notMem_builder
    {name argument : String}
    (inName : '\n' ∉ name.toList)
    (inArgument : '\n' ∉ argument.toList) :
    '\n' ∉ (builder name argument).toList := by
  simp only [builder, String.toList_append, List.mem_append, not_or]
  exact ⟨⟨⟨⟨by decide, inName⟩, by decide⟩, inArgument⟩, by decide⟩

/-- The expression of a field type stands on one line. -/
theorem lineFeed_notMem_typeExpression (casing : Casing) (type : FieldType) :
    '\n' ∉ (typeExpression casing type).toList := by
  induction type with
  | text limits =>
      exact lineFeed_notMem_builder (by decide)
        (lineFeed_notMem_optionObject _ (lineFeed_notMem_textOptions limits))
  | number limits =>
      exact lineFeed_notMem_builder (by decide)
        (lineFeed_notMem_optionObject _ (lineFeed_notMem_numberOptions limits))
  | boolean => exact lineFeed_notMem_builder (by decide) (by decide)
  | date => exact lineFeed_notMem_builder (by decide) (by decide)
  | enumRef name =>
      exact lineFeed_notMem_builder (by decide)
        (lineFeed_notMem_identifier
          (isIdentifier_declaredName (casing.apply name)))
  | any => exact lineFeed_notMem_builder (by decide) (by decide)
  | array element inductionHypothesis =>
      exact lineFeed_notMem_builder (by decide) inductionHypothesis
  | optional inner inductionHypothesis =>
      exact lineFeed_notMem_builder (by decide) inductionHypothesis

end Script
end TableTypes
