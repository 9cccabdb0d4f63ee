import TableTypes.Resolution

/-!
# When a column has a type

A column has the type of the kind that its type token names. A type is missing
for one of two reasons: the token names no kind, or an enum column refers to an
enum that is not registered. Either error names the column it is about.
-/

namespace TableTypes
namespace Column

/-- Of the kinds only an enum can fail, namely when the enum is not
registered. -/
theorem typeOfKind_eq_error_iff
    (registry : EnumRegistry)
    (minLength : Option UInt32)
    (column : Column)
    (kind : ColumnKind)
    (error : ResolutionError) :
    column.typeOfKind registry minLength kind = .error error ↔
      kind = .enumeration ∧
        registry.find? (column.enumName.getD column.typeText) = none ∧
        error = .ofColumn column
          (.unknownEnum (column.enumName.getD column.typeText)) := by
  cases kind with
  | enumeration =>
      cases found : registry.find? (column.enumName.getD column.typeText) with
      | none => simp [typeOfKind, resolveEnum, found, eq_comm]
      | some enumeration => simp [typeOfKind, resolveEnum, found]
  | _ => simp [typeOfKind]

/-- A column whose token names no kind is reported with its token. -/
theorem resolve_of_unknown
    (registry : EnumRegistry)
    (minLength : Option UInt32)
    (column : Column)
    (unknown : ColumnKind.ofToken? (ColumnKind.typeToken column.typeText) = none) :
    column.resolve registry minLength =
      .error (.ofColumn column
        (.unknownType (ColumnKind.typeToken column.typeText))) := by
  simp only [resolve, unknown]

/-- A column of a known kind has the type of its kind, which may be absent when the
column is nullable. -/
theorem resolve_of_kind
    (registry : EnumRegistry)
    (minLength : Option UInt32)
    (column : Column)
    {kind : ColumnKind}
    (known : ColumnKind.ofToken? (ColumnKind.typeToken column.typeText) =
      some kind) :
    column.resolve registry minLength =
      (column.typeOfKind registry minLength kind).map fun type =>
        if column.isNullable then type.toOptional else type := by
  simp only [resolve, known]
  cases column.typeOfKind registry minLength kind <;> rfl

/-- The errors of resolution. -/
theorem resolve_eq_error_iff
    (registry : EnumRegistry)
    (minLength : Option UInt32)
    (column : Column)
    (error : ResolutionError) :
    column.resolve registry minLength = .error error ↔
      (ColumnKind.ofToken? (ColumnKind.typeToken column.typeText) = none ∧
        error = .ofColumn column
          (.unknownType (ColumnKind.typeToken column.typeText))) ∨
      (ColumnKind.ofToken? (ColumnKind.typeToken column.typeText) =
          some .enumeration ∧
        registry.find? (column.enumName.getD column.typeText) = none ∧
        error = .ofColumn column
          (.unknownEnum (column.enumName.getD column.typeText))) := by
  cases known : ColumnKind.ofToken? (ColumnKind.typeToken column.typeText) with
  | none => simp [resolve, known, eq_comm]
  | some kind =>
      have failure :=
        typeOfKind_eq_error_iff registry minLength column kind error
      cases typed : column.typeOfKind registry minLength kind with
      | error reported => simpa [resolve, known, typed] using failure
      | ok type => simpa [resolve, known, typed] using failure

/-- The type of an enum column refers to the registered enum. -/
theorem resolveEnum_eq_ok_iff
    (registry : EnumRegistry)
    (column : Column)
    (type : FieldType) :
    column.resolveEnum registry = .ok type ↔
      ∃ enumeration,
        registry.find? (column.enumName.getD column.typeText) =
            some enumeration ∧
          type = .enumRef enumeration.name := by
  cases found : registry.find? (column.enumName.getD column.typeText) with
  | none => simp [resolveEnum, found]
  | some enumeration => simp [resolveEnum, found, eq_comm]

/-- The type of a column is that of its kind, which may be absent when the
column is nullable. -/
theorem resolve_eq_ok_iff
    (registry : EnumRegistry)
    (minLength : Option UInt32)
    (column : Column)
    (type : FieldType) :
    column.resolve registry minLength = .ok type ↔
      ∃ kind present,
        ColumnKind.ofToken? (ColumnKind.typeToken column.typeText) =
            some kind ∧
          column.typeOfKind registry minLength kind = .ok present ∧
          type = if column.isNullable then present.toOptional else present := by
  cases known : ColumnKind.ofToken? (ColumnKind.typeToken column.typeText) with
  | none => simp [resolve, known]
  | some kind =>
      cases typed : column.typeOfKind registry minLength kind with
      | error error => simp [resolve, known, typed]
      | ok present =>
          simp only [resolve, known, typed]
          constructor
          · intro resolved
            cases resolved
            exact ⟨kind, present, rfl, typed, rfl⟩
          · rintro ⟨_, _, sameKind, sameType, rfl⟩
            cases sameKind
            rw [typed] at sameType
            cases sameType
            rfl

/-- An error of resolution names the column and does not speak of another
one. -/
theorem resolve_error_names_column
    {registry : EnumRegistry}
    {minLength : Option UInt32}
    {column : Column}
    {error : ResolutionError}
    (failed : column.resolve registry minLength = .error error) :
    error.location = (column.table, column.name) ∧
      ∀ field first, error.cause ≠ .fieldTaken field first := by
  rcases (resolve_eq_error_iff registry minLength column error).mp failed with
    ⟨_, rfl⟩ | ⟨_, _, rfl⟩
  · exact ⟨rfl, fun _ _ equal => ResolutionCause.noConfusion equal⟩
  · exact ⟨rfl, fun _ _ equal => ResolutionCause.noConfusion equal⟩

end Column
end TableTypes
