import TableTypes.Proofs.Script.Line

/-!
# Enum references in type expressions

A type expression refers to an enum by a call `Type.Enum(X)`. The call can be
found in the text of the expression, however deep it is nested, and its argument
is the identifier that stands for the enum in the unit.
-/

namespace TableTypes

namespace FieldType

/-- The reported names of the enums that occur in a type. -/
def enumNames : FieldType -> List String
  | .text _ => []
  | .number _ => []
  | .boolean => []
  | .date => []
  | .enumRef name => [name]
  | .any => []
  | .array element => element.enumNames
  | .optional inner => inner.enumNames

/-- A type refers to the same enums when its value may be absent. -/
@[simp] theorem enumNames_toOptional (type : FieldType) :
    type.toOptional.enumNames = type.enumNames := by
  cases type <;> rfl

end FieldType

namespace Script

/-- The arguments of the calls `Type.Enum(X)` in a text, in order. -/
def enumReferences : List Char -> List String
  | [] => []
  | c :: rest =>
      match after? "Type.Enum(".toList (c :: rest) with
      | some argument =>
          String.ofList (argument.takeWhile continuesIdentifier)
            :: enumReferences rest
      | none => enumReferences rest

/-- A text does not begin with a text that has a character it lacks. -/
theorem after?_eq_none_of_notMem
    {c : Char}
    {beginning text : List Char}
    (present : c ∈ beginning)
    (absent : c ∉ text) :
    after? beginning text = none := by
  induction beginning generalizing text with
  | nil => cases present
  | cons expected beginning inductionHypothesis =>
      cases text with
      | nil => rfl
      | cons first rest =>
          rw [List.mem_cons, not_or] at absent
          rw [after?]
          split
          next same =>
            have present := (List.mem_cons.mp present).resolve_left fun equal =>
              absent.1 (equal.trans same)
            exact inductionHypothesis present absent.2
          next => rfl

/-- A text without a dot has no reference. -/
theorem enumReferences_eq_nil_of_notMem
    (text : List Char)
    (noDot : '.' ∉ text) :
    enumReferences text = [] := by
  induction text with
  | nil => rfl
  | cons c rest inductionHypothesis =>
      have noCall : after? "Type.Enum(".toList (c :: rest) = none :=
        after?_eq_none_of_notMem (c := '.') (by decide) noDot
      rw [enumReferences, noCall]
      exact inductionHypothesis fun member =>
        noDot (List.mem_cons_of_mem c member)

/-! ## Builders -/

/-- A call opens with its builder and closes after its argument. -/
theorem toList_builder_append (name argument : String) (closing : List Char) :
    (builder name argument).toList ++ closing =
      ("Type." ++ name ++ "(").toList
        ++ (argument.toList ++ ')' :: closing) := by
  simp only [builder, String.toList_append, List.append_assoc]
  rfl

/-- A call of the enum builder is a reference. -/
theorem enumReferences_enum (rest : List Char) :
    enumReferences (("Type." ++ "Enum" ++ "(").toList ++ rest) =
      String.ofList (rest.takeWhile continuesIdentifier)
        :: enumReferences rest := by
  have opening : "Type." ++ "Enum" ++ "(" = "Type.Enum(" := by
    decide +kernel
  rw [opening]
  rfl

/-- A call of the array builder refers to what its argument refers to. -/
theorem enumReferences_array (rest : List Char) :
    enumReferences (("Type." ++ "Array" ++ "(").toList ++ rest) =
      enumReferences rest := by
  have opening : "Type." ++ "Array" ++ "(" = "Type.Array(" := by
    decide +kernel
  rw [opening]
  rfl

/-- A call of the builder for absent values refers to what its argument refers
to. -/
theorem enumReferences_optional (rest : List Char) :
    enumReferences (("Type." ++ "Optional" ++ "(").toList ++ rest) =
      enumReferences rest := by
  have opening : "Type." ++ "Optional" ++ "(" = "Type.Optional(" := by
    decide +kernel
  rw [opening]
  rfl

/-- The expression of a type that refers to an enum has one reference, to the
identifier of this enum. -/
theorem enumReferences_typeExpression
    {casing : Casing}
    {type : FieldType}
    {name : String}
    (refers : name ∈ type.enumNames)
    (closing : List Char)
    (noDot : '.' ∉ closing) :
    enumReferences ((typeExpression casing type).toList ++ closing) =
      [enumIdentifier casing name] := by
  -- The parentheses that close the outer calls are part of the induction.
  induction type generalizing closing with
  | text limits => cases refers
  | number limits => cases refers
  | boolean => cases refers
  | date => cases refers
  | any => cases refers
  | enumRef reported =>
      obtain rfl := List.mem_singleton.mp refers
      have identifier : isIdentifier (enumIdentifier casing name) = true :=
        isIdentifier_declaredName (casing.apply name)
      have continues := continuesIdentifier_of_mem identifier
      have stops : (')' :: closing).head?.any continuesIdentifier = false := by
        change continuesIdentifier ')' = false
        decide
      have noReference : enumReferences
          ((enumIdentifier casing name).toList ++ ')' :: closing) = [] := by
        refine enumReferences_eq_nil_of_notMem _ fun member => ?_
        rcases List.mem_append.mp member with inName | inClosing
        · exact absurd (continues '.' inName) (by decide)
        · exact noDot ((List.mem_cons.mp inClosing).resolve_left (by decide))
      rw [typeExpression, toList_builder_append, enumReferences_enum,
        takeWhile_continuesIdentifier continues stops,
        String.ofList_toList, noReference]
  | array element inductionHypothesis =>
      rw [typeExpression, toList_builder_append, enumReferences_array]
      exact inductionHypothesis refers _ (by simp [noDot])
  | optional inner inductionHypothesis =>
      rw [typeExpression, toList_builder_append, enumReferences_optional]
      exact inductionHypothesis refers _ (by simp [noDot])

end Script
end TableTypes
