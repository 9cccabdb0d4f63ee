import TableTypes.Resolution
import TableTypes.Script.Printer

/-!
# Generation reports

All columns of all tables are declared in the order given, and the text is assembled. A
column that fails is reported and the rest go on, so that one report shows every failure.
-/

namespace TableTypes

/-- A table with its reported columns. -/
structure ReportedTable where
  name : String
  columns : List Column
  deriving DecidableEq, Repr

/-- What a generation produced. -/
structure Report where
  /-- The text of the unit, which lacks the fields of failed columns. -/
  output : String
  errors : List ResolutionError
  enums : List EnumDecl
  tables : List TableDecl
  deriving DecidableEq, Repr

namespace Report

/-- Every column has its field. -/
def isComplete (report : Report) : Bool :=
  report.errors.isEmpty

/-- The declaration of a table by its reported name. -/
def table? (report : Report) (reportedName : String) : Option TableDecl :=
  report.tables.find? fun table => table.reportedName = reportedName

end Report

namespace Settings

/-- The field type of a column, unless an earlier column of its table holds the emitted
name. -/
def fieldType
    (settings : Settings)
    (registry : EnumRegistry)
    (declared : TableDecl)
    (column : Column) : Except ResolutionError FieldType :=
  let field := settings.casing.apply column.name
  match declared.field? field with
  | some first => .error (.ofColumn column (.fieldTaken field first.reportedName))
  | none => column.resolve registry settings.textMinLength

/-- Declare columns in turn after the fields declared so far. -/
def declareColumns
    (settings : Settings)
    (registry : EnumRegistry)
    (declared : TableDecl) : List Column -> TableDecl × List ResolutionError
  | [] => (declared, [])
  | column :: rest =>
      match settings.fieldType registry declared column with
      | .ok type =>
          settings.declareColumns registry
            (declared.addField settings.casing column.name type) rest
      | .error error =>
          let (table, errors) := settings.declareColumns registry declared rest
          (table, error :: errors)

/-- Declare a table. Of columns that share a name the first is declared. -/
def declareTable
    (settings : Settings)
    (registry : EnumRegistry)
    (input : ReportedTable) : TableDecl × List ResolutionError :=
  settings.declareColumns registry
    (TableDecl.named settings.casing input.name)
    (Column.keepFirst input.columns)

/-- Generate the unit of the given enums and tables. -/
def generate
    (settings : Settings)
    (rows : List EnumRow)
    (inputs : List ReportedTable) : Report :=
  let registry := EnumRegistry.ofRows rows
  let declared := inputs.map (settings.declareTable registry)
  let enums := registry.enums.map (EnumDecl.ofEnumeration settings.casing)
  let tables := declared.map Prod.fst
  {
    output := Script.unitText settings.casing enums tables
    errors := declared.flatMap Prod.snd
    enums := enums
    tables := tables
  }

end Settings
end TableTypes
