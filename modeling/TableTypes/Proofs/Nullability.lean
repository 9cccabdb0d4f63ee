import TableTypes.Proofs.Resolution
import TableTypes.Proofs.TypeToken

/-!
# Nullable columns

A nullable column has the type of the required one, without its least length and
as a value that may be absent. Whether there is a type, and which error is
reported when there is none, does not depend on nullability. When a column names
its enum, nothing but the token of its type text matters.
-/

namespace TableTypes

namespace FieldType

/-- The type without a least length of its texts. -/
def withoutMinLength : FieldType -> FieldType
  | .text limits => .text { limits with minLength := none }
  | type => type

/-- Somewhere in the type a value that may be absent is wrapped in another one. -/
def nestsOptional : FieldType -> Bool
  | .optional inner => inner.isOptional || inner.nestsOptional
  | .array element => element.nestsOptional
  | _ => false

/-- A type that requires its value becomes optional by one wrapper. -/
theorem toOptional_of_required
    {type : FieldType}
    (required : type.isOptional = false) :
    type.toOptional = .optional type := by
  rw [toOptional, required]
  rfl

/-- Types that require their values differ after wrapping when they differ before. -/
theorem toOptional_inj
    {first second : FieldType}
    (firstRequired : first.isOptional = false)
    (secondRequired : second.isOptional = false) :
    first.toOptional = second.toOptional ↔ first = second := by
  rw [toOptional_of_required firstRequired, toOptional_of_required secondRequired,
    FieldType.optional.injEq]

@[simp] theorem isOptional_withoutMinLength (type : FieldType) :
    type.withoutMinLength.isOptional = type.isOptional := by
  cases type <;> rfl

@[simp] theorem nestsOptional_withoutMinLength (type : FieldType) :
    type.withoutMinLength.nestsOptional = type.nestsOptional := by
  cases type <;> rfl

end FieldType

namespace Column

/-- The column with the given nullability. -/
def withNullability (column : Column) (isNullable : Bool) : Column :=
  { column with isNullable := isNullable }

/-- The column with another type text. -/
def withTypeText (column : Column) (typeText : String) : Column :=
  { column with typeText := typeText }

section Resolution

variable (registry : EnumRegistry) (minLength : Option UInt32) (column : Column)

/-- No kind of column is optional by itself. -/
theorem required_of_typeOfKind
    {kind : ColumnKind}
    {type : FieldType}
    (typed : column.typeOfKind registry minLength kind = .ok type) :
    type.isOptional = false ∧ type.nestsOptional = false := by
  cases kind with
  | enumeration =>
      obtain ⟨enumeration, _, rfl⟩ :=
        (resolveEnum_eq_ok_iff registry column type).mp typed
      exact ⟨rfl, rfl⟩
  | _ =>
      cases typed
      exact ⟨rfl, rfl⟩

/-- Nullability shows in the least length of a kind and nowhere else. -/
theorem typeOfKind_nullable (kind : ColumnKind) :
    (column.withNullability true).typeOfKind registry minLength kind =
      ((column.withNullability false).typeOfKind registry minLength kind).map
        FieldType.withoutMinLength := by
  cases kind with
  | enumeration =>
      change column.resolveEnum registry = (column.resolveEnum registry).map _
      cases found : column.resolveEnum registry with
      | error error => rfl
      | ok type =>
          obtain ⟨enumeration, _, rfl⟩ :=
            (resolveEnum_eq_ok_iff registry column type).mp found
          rfl
  | _ => rfl

/-- A nullable column is resolved like the required one, and its type is wrapped
once. -/
theorem resolve_nullable :
    (column.withNullability true).resolve registry minLength =
      ((column.withNullability false).resolve registry minLength).map fun type =>
        .optional type.withoutMinLength := by
  cases known : ColumnKind.ofToken? (ColumnKind.typeToken column.typeText) with
  | none =>
      rw [resolve_of_unknown registry minLength (column.withNullability true) known,
        resolve_of_unknown registry minLength (column.withNullability false) known]
      rfl
  | some kind =>
      rw [resolve_of_kind registry minLength (column.withNullability true) known,
        resolve_of_kind registry minLength (column.withNullability false) known,
        typeOfKind_nullable]
      cases typed : (column.withNullability false).typeOfKind registry minLength
          kind with
      | error error => rfl
      | ok type =>
          have required := (required_of_typeOfKind registry minLength _ typed).1
          exact congrArg Except.ok (FieldType.toOptional_of_required
            (type.isOptional_withoutMinLength.trans required))

/-- The type of a required column is not optional. -/
theorem required_of_resolve
    {type : FieldType}
    (resolved : (column.withNullability false).resolve registry minLength = .ok type) :
    type.isOptional = false ∧ type.nestsOptional = false := by
  obtain ⟨kind, present, _, typed, same⟩ :=
    (resolve_eq_ok_iff registry minLength _ type).mp resolved
  obtain rfl : type = present := same
  exact required_of_typeOfKind registry minLength _ typed

/-- The type of a kind does not depend on the type text when the column names its
enum. -/
theorem typeOfKind_withTypeText
    {enumName : String}
    (named : column.enumName = some enumName)
    (typeText : String)
    (kind : ColumnKind) :
    (column.withTypeText typeText).typeOfKind registry minLength kind =
      column.typeOfKind registry minLength kind := by
  cases kind with
  | enumeration =>
      change (column.withTypeText typeText).resolveEnum registry =
        column.resolveEnum registry
      simp only [resolveEnum, withTypeText, named, Option.getD_some]
      rfl
  | _ => rfl

/-- A column that names its enum is resolved by the token of its type text. -/
theorem resolve_withTypeText
    {enumName : String}
    (named : column.enumName = some enumName)
    {typeText : String}
    (sameToken : ColumnKind.typeToken typeText = ColumnKind.typeToken column.typeText) :
    (column.withTypeText typeText).resolve registry minLength =
      column.resolve registry minLength := by
  have tokenOfText : ColumnKind.ofToken?
      (ColumnKind.typeToken (column.withTypeText typeText).typeText) =
        ColumnKind.ofToken? (ColumnKind.typeToken column.typeText) :=
    congrArg ColumnKind.ofToken? sameToken
  cases known : ColumnKind.ofToken? (ColumnKind.typeToken column.typeText) with
  | none =>
      rw [resolve_of_unknown registry minLength _ (tokenOfText.trans known),
        resolve_of_unknown registry minLength column known]
      exact congrArg
        (fun token => Except.error (ResolutionError.ofColumn column (.unknownType token)))
        sameToken
  | some kind =>
      rw [resolve_of_kind registry minLength _ (tokenOfText.trans known),
        resolve_of_kind registry minLength column known,
        typeOfKind_withTypeText registry minLength column named]
      rfl

/-- Nullability wraps the type of a column and clears its least length: the nullable
column fails exactly when the required one fails, with the same error, and otherwise
has its type wrapped once; no type holds a wrapper in a wrapper. A column that names
its enum is resolved alike for all respellings of its type text, which are the texts of
the same token. -/
theorem resolve_wraps_nullable :
    let nullable := (column.withNullability true).resolve registry minLength
    let required := (column.withNullability false).resolve registry minLength
    (∀ error, nullable = .error error ↔ required = .error error) ∧
      (∀ type, required = .ok type ->
        nullable = .ok (.optional type.withoutMinLength) ∧
          type.isOptional = false ∧
          type.nestsOptional = false ∧
          (FieldType.optional type.withoutMinLength).nestsOptional = false) ∧
      ∀ enumName typeText, column.enumName = some enumName ->
        (ColumnKind.typeToken typeText = ColumnKind.typeToken column.typeText ↔
          Relation.EqvGen ColumnKind.Respells typeText column.typeText) ∧
        (ColumnKind.typeToken typeText = ColumnKind.typeToken column.typeText ->
          (column.withTypeText typeText).resolve registry minLength =
            column.resolve registry minLength) := by
  intro nullable required
  have wrapped : nullable = required.map fun type =>
      .optional type.withoutMinLength := resolve_nullable registry minLength column
  refine ⟨fun error => ?_, fun type resolved => ?_, fun enumName typeText named => ?_⟩
  · rw [wrapped]
    cases required with
    | error reported => exact Iff.rfl
    | ok type => simp [Except.map]
  · obtain ⟨notOptional, notNested⟩ :=
      required_of_resolve registry minLength column resolved
    refine ⟨?_, notOptional, notNested, ?_⟩
    · rw [wrapped, resolved]
      rfl
    · rw [FieldType.nestsOptional, FieldType.isOptional_withoutMinLength,
        FieldType.nestsOptional_withoutMinLength, notOptional, notNested]
      rfl
  · exact ⟨ColumnKind.typeToken_eq_iff_eqvGen typeText column.typeText,
      resolve_withTypeText registry minLength column named⟩

end Resolution

/-- A required text has its least length and a nullable one has none; the type of an
enum column may be spelled in lower case, with a parenthesis and in white space. -/
theorem email_and_role_resolved :
    let registry := EnumRegistry.ofRows [⟨"Role", "USER"⟩]
    let email : Column :=
      { table := "users", name := "email", typeText := "varchar(255)" }
    let role : Column := {
      table := "users", name := "role", typeText := "USER-DEFINED",
      enumName := some "Role"
    }
    (email.withNullability false).resolve registry (some 1) =
        .ok (.text { minLength := some 1 }) ∧
      (email.withNullability true).resolve registry (some 1) =
        .ok (.optional (.text {})) ∧
      role.enumName = some "Role" ∧
      ColumnKind.typeToken "\tuser-defined (10) " = ColumnKind.typeToken role.typeText ∧
      (role.withTypeText "\tuser-defined (10) ").resolve registry (some 1) =
        .ok (.enumRef "Role") := by
  intro registry email role
  have text : (email.withNullability false).resolve registry (some 1) =
      .ok (.text { minLength := some 1 }) := by
    decide +kernel
  have sameToken : ColumnKind.typeToken "\tuser-defined (10) " =
      ColumnKind.typeToken role.typeText :=
    (ColumnKind.typeToken_eq_iff _ _).mpr (by decide +kernel)
  have enumeration : role.resolve registry (some 1) = .ok (.enumRef "Role") := by
    decide +kernel
  obtain ⟨_, wraps, _⟩ := resolve_wraps_nullable registry (some 1) email
  obtain ⟨_, _, respelled⟩ := resolve_wraps_nullable registry (some 1) role
  exact ⟨text, (wraps _ text).1, rfl, sameToken,
    ((respelled "Role" _ rfl).2 sameToken).trans enumeration⟩

end Column
end TableTypes
