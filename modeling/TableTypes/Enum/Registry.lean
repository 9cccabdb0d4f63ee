import TableTypes.Enum.Row

/-!
# Enum registry

Rows are collected into enums. Enums stay in the order of their first rows, labels in the
order of their first occurrences, and repeated rows add nothing.
-/

namespace TableTypes

/-- An enum with its labels. -/
structure Enumeration where
  name : String
  labels : List String
  deriving DecidableEq, Repr

namespace Enumeration

/-- Add a label at the end unless the enum has it. -/
def addLabel (enumeration : Enumeration) (label : String) : Enumeration :=
  if label ∈ enumeration.labels then enumeration
  else { enumeration with labels := enumeration.labels ++ [label] }

end Enumeration

/-- The enums known to a run. -/
structure EnumRegistry where
  enums : List Enumeration
  deriving DecidableEq, Repr

namespace EnumRegistry

/-- The registry without enums. -/
def empty : EnumRegistry :=
  ⟨[]⟩

/-- Add a row to the enum it names, which is put at the end when it is new. -/
def addRow (row : EnumRow) : List Enumeration -> List Enumeration
  | [] => [⟨row.enumName, [row.label]⟩]
  | enumeration :: rest =>
      if enumeration.name = row.enumName then
        enumeration.addLabel row.label :: rest
      else
        enumeration :: addRow row rest

/-- The registry with one more row. -/
def insert (registry : EnumRegistry) (row : EnumRow) : EnumRegistry :=
  ⟨addRow row registry.enums⟩

/-- The registry of a list of rows. -/
def ofRows (rows : List EnumRow) : EnumRegistry :=
  rows.foldl insert empty

/-- The enum of a name. -/
def find? (registry : EnumRegistry) (name : String) : Option Enumeration :=
  registry.enums.find? fun enumeration => enumeration.name = name

/-- The number of enums. -/
def size (registry : EnumRegistry) : Nat :=
  registry.enums.length

/-- The registry has no enum. -/
def isEmpty (registry : EnumRegistry) : Bool :=
  registry.enums.isEmpty

end EnumRegistry
end TableTypes
