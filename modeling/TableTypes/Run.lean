import TableTypes.Report
import TableTypes.Settings.Validation
import TableTypes.Source

/-!
# Runs

A run checks the settings, asks a source for tables, columns and enums, and generates a
report. The questions are recorded in the order in which they are asked; the first failure
ends the run.
-/

namespace TableTypes

/-- A question that a run asks its source. -/
inductive Query where
  | tables (schemas : NameSet)
  | columns (table : String)
  | enums (schemas : NameSet)
  deriving DecidableEq, Repr

/-- Why a run has no output. -/
inductive RunError where
  | settings (error : SettingsError)
  | source (error : SourceError)
  | file (error : FileError)
  /-- Columns that have no field. -/
  | resolution (errors : List ResolutionError)
  deriving DecidableEq, Repr

namespace RunError

/-- The text of the error. -/
def message : RunError -> String
  | .settings error => "configuration error: " ++ error.message
  | .source error => "source error: " ++ error.message
  | .file error => "IO error: " ++ error.message
  | .resolution errors =>
      "type resolution failed for " ++ Nat.repr errors.length ++ " column(s)"

end RunError

/-- A result with the questions that were asked on the way to it. -/
structure Trace (α : Type) where
  queries : List Query
  result : Except RunError α

namespace Trace

/-- The trace of one question. -/
def ask (query : Query) (answer : Except SourceError α) : Trace α where
  queries := [query]
  result :=
    match answer with
    | .error error => .error (.source error)
    | .ok value => .ok value

/-- A check that asks nothing. -/
def check (outcome : Except SettingsError Unit) : Trace Unit where
  queries := []
  result :=
    match outcome with
    | .error error => .error (.settings error)
    | .ok () => .ok ()

instance : Monad Trace where
  pure value := ⟨[], .ok value⟩
  bind first next :=
    match first.result with
    | .error error => ⟨first.queries, .error error⟩
    | .ok value =>
        let second := next value
        ⟨first.queries ++ second.queries, second.result⟩

@[simp] theorem queries_pure (value : α) :
    (pure value : Trace α).queries = [] := rfl

@[simp] theorem result_pure (value : α) :
    (pure value : Trace α).result = .ok value := rfl

end Trace

namespace Source

/-- Load the columns of tables in turn. -/
def loadTables (source : Source) : List String -> Trace (List ReportedTable)
  | [] => pure []
  | name :: rest => do
      let columns ← Trace.ask (.columns name) (source.columns name)
      let tables ← source.loadTables rest
      pure (⟨name, columns⟩ :: tables)

end Source

namespace Settings

/-- Run against a source, with the questions recorded. -/
def trace (settings : Settings) (source : Source) : Trace Report := do
  Trace.check settings.validateValues
  let schemas := settings.schemas
  let available ← Trace.ask (.tables schemas) (source.tables schemas)
  Trace.check (settings.validateTables available)
  let inputs ← source.loadTables (settings.chosenTables available)
  let rows ← Trace.ask (.enums schemas) (source.enumRows schemas)
  pure (settings.generate rows inputs)

/-- Run against a source. -/
def run (settings : Settings) (source : Source) : Except RunError Report :=
  (settings.trace source).result

/-- Run against the snapshot of a document. -/
def runDocument (settings : Settings) (document : String) : Except RunError Report :=
  match Snapshot.ofDocument document with
  | .error error => .error (.source error)
  | .ok snapshot => settings.run snapshot.toSource

/-- Run against the snapshot that a file holds. -/
def runFile
    (settings : Settings)
    (content : Except FileError ByteArray) : Except RunError Report :=
  match content with
  | .error error => .error (.file error)
  | .ok bytes =>
      match decodeText bytes with
      | .error error => .error (.file error)
      | .ok document => settings.runDocument document

end Settings

namespace Report

/-- The output of a report without errors. -/
def toResult (report : Report) : Except RunError String :=
  if report.isComplete then .ok report.output
  else .error (.resolution report.errors)

/-- Store the output of a report without errors, by an action that may fail. A report with
errors is not stored. -/
def store
    (report : Report)
    (write : String -> Except FileError Unit) : Except RunError Unit :=
  match report.toResult with
  | .error error => .error error
  | .ok output =>
      match write output with
      | .error error => .error (.file error)
      | .ok () => .ok ()

end Report
end TableTypes
