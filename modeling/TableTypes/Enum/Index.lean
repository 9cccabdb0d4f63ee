import TableTypes.Enum.Registry
import TableTypes.NameSet

/-!
# Registration with an index

Rows are registered in one pass over them. A map finds the position of the enum that a row
names, and a set for every enum tells whether a label is new, so that no enum is searched
for. There is no result when nothing stands at a position.
-/

namespace TableTypes

/-- Enums with the position of every name, and with the labels seen of every enum. -/
structure EnumIndex where
  enums : List Enumeration
  positions : List (String × Nat)
  seen : List NameSet
  deriving Repr

namespace EnumIndex

/-- The index without enums. -/
def empty : EnumIndex :=
  ⟨[], [], []⟩

/-- The index with a new enum at the end, which has no label yet. -/
def addEnum (index : EnumIndex) (name : String) : EnumIndex where
  enums := index.enums ++ [⟨name, []⟩]
  positions := (name, index.enums.length) :: index.positions
  seen := index.seen ++ [.empty]

/-- Add a label to the enum at a position, unless it has been seen there. -/
def addLabel? (index : EnumIndex) (position : Nat) (label : String) : Option EnumIndex :=
  match index.seen[position]? with
  | none => none
  | some labels =>
      if label ∈ labels then some index
      else
        match index.enums[position]? with
        | none => none
        | some enumeration =>
            some {
              index with
              enums := index.enums.set position
                { enumeration with labels := enumeration.labels ++ [label] }
              seen := index.seen.set position (labels.insert label)
            }

/-- Register a row under the position of its enum. -/
def addRow? (index : EnumIndex) (row : EnumRow) : Option EnumIndex :=
  match index.positions.lookup row.enumName with
  | some position => index.addLabel? position row.label
  | none => (index.addEnum row.enumName).addLabel? index.enums.length row.label

/-- The index of a list of rows. -/
def ofRows? (rows : List EnumRow) : Option EnumIndex :=
  rows.foldlM addRow? empty

/-- Look a name up: the enum at its position, or none for a name without position. -/
def lookup? (index : EnumIndex) (name : String) : Option (Option Enumeration) :=
  match index.positions.lookup name with
  | none => some none
  | some position => index.enums[position]?.map some

end EnumIndex
end TableTypes
