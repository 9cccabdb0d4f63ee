import TableTypes.Casing
import TableTypes.Enum.Registry
import TableTypes.FieldType

/-!
# Declarations

What is declared for a table or an enum, with reported and emitted names side by side.
-/

namespace TableTypes

/-- One field of a table. -/
structure FieldDecl where
  reportedName : String
  emittedName : String
  type : FieldType
  deriving DecidableEq, Repr

/-- The declaration of a table. -/
structure TableDecl where
  reportedName : String
  emittedName : String
  /-- The name of the static type that goes with the declared value. -/
  typeName : String
  fields : List FieldDecl
  deriving DecidableEq, Repr

namespace TableDecl

/-- The name of a static type: the emitted name of its table followed by `Type`, cased as
a whole. -/
def typeNameOf (casing : Casing) (emittedName : String) : String :=
  casing.apply (emittedName ++ "Type")

/-- A table without fields. -/
def named (casing : Casing) (reportedName : String) : TableDecl :=
  let emittedName := casing.apply reportedName
  ⟨reportedName, emittedName, typeNameOf casing emittedName, []⟩

/-- The table with one more field. -/
def addField
    (table : TableDecl)
    (casing : Casing)
    (reportedName : String)
    (type : FieldType) : TableDecl :=
  { table with fields := table.fields ++ [⟨reportedName, casing.apply reportedName, type⟩] }

/-- The field of an emitted name. -/
def field? (table : TableDecl) (emittedName : String) : Option FieldDecl :=
  table.fields.find? fun field => field.emittedName = emittedName

end TableDecl

/-- The declaration of an enum. -/
structure EnumDecl where
  reportedName : String
  emittedName : String
  labels : List String
  deriving DecidableEq, Repr

namespace EnumDecl

/-- The declaration of a registered enum. -/
def ofEnumeration (casing : Casing) (enumeration : Enumeration) : EnumDecl :=
  ⟨enumeration.name, casing.apply enumeration.name, enumeration.labels⟩

end EnumDecl
end TableTypes
