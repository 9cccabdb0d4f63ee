import TableTypes.Column
import TableTypes.ColumnKind
import TableTypes.Enum.Registry
import TableTypes.Settings

/-!
# Resolution of column types

A column gets its field type from the kind that its type token names, its nullability and
its sign. Enum columns must refer to a registered enum.
-/

namespace TableTypes

/-- Why a column has no field. -/
inductive ResolutionCause where
  /-- The token names no kind of column. -/
  | unknownType (token : String)
  /-- No enum of this name is registered. -/
  | unknownEnum (name : String)
  /-- An earlier column holds the field under the same emitted name. -/
  | fieldTaken (field first : String)
  deriving DecidableEq, Repr

/-- A column that has no field, and why. -/
structure ResolutionError where
  table : String
  column : String
  cause : ResolutionCause
  deriving DecidableEq, Repr

namespace ResolutionError

/-- The error of a column. -/
def ofColumn (column : Column) (cause : ResolutionCause) : ResolutionError :=
  ⟨column.table, column.name, cause⟩

/-- The table and the column that the error is about. -/
def location (error : ResolutionError) : String × String :=
  (error.table, error.column)

/-- The text of the error. -/
def message (error : ResolutionError) : String :=
  let column := "column '" ++ error.table ++ "." ++ error.column ++ "'"
  match error.cause with
  | .unknownType token =>
      "unknown type '" ++ token ++ "' for " ++ column
  | .unknownEnum name =>
      "unknown enum '" ++ name ++ "' referenced by " ++ column
  | .fieldTaken field first =>
      column ++ " emits field '" ++ field ++ "' already taken by column '" ++ first ++ "'"

end ResolutionError

namespace Column

/-- The enum type of a column. A column that names no enum is looked up by its type text.
-/
def resolveEnum
    (registry : EnumRegistry)
    (column : Column) : Except ResolutionError FieldType :=
  let name := column.enumName.getD column.typeText
  match registry.find? name with
  | some enumeration => .ok (.enumRef enumeration.name)
  | none => .error (.ofColumn column (.unknownEnum name))

/-- The type of a column of a known kind, whether or not it is nullable. Only a required
text has a least length. -/
def typeOfKind
    (registry : EnumRegistry)
    (minLength : Option UInt32)
    (column : Column) : ColumnKind -> Except ResolutionError FieldType
  | .text =>
      .ok (.text { minLength := if column.isNullable then none else minLength })
  | .temporal => .ok .date
  | .numeric =>
      .ok (.number { minimum := if column.isUnsigned then some 0 else none })
  | .boolean => .ok .boolean
  | .json => .ok .any
  | .array => .ok (.array .any)
  | .network format => .ok (.text { format := some format })
  | .reference => .ok (.text {})
  | .enumeration => column.resolveEnum registry

/-- The field type of a column. -/
def resolve
    (registry : EnumRegistry)
    (minLength : Option UInt32)
    (column : Column) : Except ResolutionError FieldType :=
  let token := ColumnKind.typeToken column.typeText
  match ColumnKind.ofToken? token with
  | none => .error (.ofColumn column (.unknownType token))
  | some kind =>
      match column.typeOfKind registry minLength kind with
      | .error error => .error error
      | .ok type => .ok (if column.isNullable then type.toOptional else type)

end Column
end TableTypes
