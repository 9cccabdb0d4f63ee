import TableTypes.Column
import TableTypes.Enum.Row
import TableTypes.NameSet
import TableTypes.Settings

/-!
# Snapshots

A snapshot is a captured answer of a database: its tables with the rows of their column
catalogue, and its enums.
-/

namespace TableTypes

/-- One row of the column catalogue. -/
structure CatalogueRow where
  name : String
  dataType : String
  isNullable : String := "NO"
  underlyingType : Option String := none
  deriving DecidableEq, Repr, Inhabited

/-- A table of a snapshot. -/
structure CapturedTable where
  schema : String := Settings.defaultSchema
  name : String
  columns : List CatalogueRow := []
  deriving DecidableEq, Repr, Inhabited

/-- An enum of a snapshot. Its labels are listed, or given as one array literal, or both.
-/
structure CapturedEnum where
  schema : String := Settings.defaultSchema
  name : String
  values : List String := []
  literal : Option String := none
  deriving DecidableEq, Repr, Inhabited

/-- A captured answer of a database. -/
structure Snapshot where
  tables : List CapturedTable := []
  enums : List CapturedEnum := []
  deriving DecidableEq, Repr, Inhabited

namespace CatalogueRow

/-- The column that a catalogue row of a table reports. -/
def toColumn (table : String) (column : CatalogueRow) : Column :=
  Column.ofCatalogue table column.name column.dataType column.isNullable column.underlyingType

end CatalogueRow

namespace CapturedEnum

/-- The rows of an enum, those of listed labels first. -/
def rows (enumeration : CapturedEnum) : List EnumRow :=
  enumeration.values.map (EnumRow.mk enumeration.name)
    ++ match enumeration.literal with
      | none => []
      | some literal => EnumRow.ofLiteral enumeration.name literal

end CapturedEnum

namespace Snapshot

/-- The names of the tables in the given schemas, as captured. -/
def tableNames (snapshot : Snapshot) (schemas : NameSet) : List String :=
  (snapshot.tables.filter fun table => table.schema ∈ schemas).map CapturedTable.name

/-- The columns of all tables of one name, or none when there is no such table. The schema
plays no part, so a table of several schemas repeats its columns. -/
def columns? (snapshot : Snapshot) (name : String) : Option (List Column) :=
  match snapshot.tables.filter fun table => table.name = name with
  | [] => none
  | tables =>
      some (tables.flatMap fun table => table.columns.map (CatalogueRow.toColumn name))

/-- The rows of the enums in the given schemas. -/
def enumRows (snapshot : Snapshot) (schemas : NameSet) : List EnumRow :=
  (snapshot.enums.filter fun enumeration => enumeration.schema ∈ schemas).flatMap
    CapturedEnum.rows

end Snapshot
end TableTypes
