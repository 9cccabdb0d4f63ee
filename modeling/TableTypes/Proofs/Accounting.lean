import Mathlib.Data.List.Nodup
import Mathlib.Data.List.Perm.Basic
import TableTypes.Proofs.Generation
import TableTypes.Proofs.SnapshotRun

/-!
# Every column is accounted for

Each reported column ends up in one place: as a field of its table or as the
subject of an error. The places of a report are therefore, up to order, the
columns it was generated from, and a run against a snapshot meets every column
of every chosen table once.
-/

namespace TableTypes

namespace Report

/-- The columns that are subjects of errors, with their tables. -/
def failedColumns (report : Report) : List (String × String) :=
  report.errors.map ResolutionError.location

/-- The columns that became fields, with their tables. -/
def emittedColumns (report : Report) : List (String × String) :=
  report.tables.flatMap fun table =>
    table.fields.map fun field => (table.reportedName, field.reportedName)

end Report

namespace Settings

/-- An error that a column becomes is about this column. -/
theorem location_of_outcome
    {settings : Settings}
    {registry : EnumRegistry}
    {earlier : List Column}
    {column : Column}
    {error : ResolutionError}
    (fails : settings.outcome registry earlier column = .error error) :
    error.location = (column.table, column.name) := by
  rw [outcome_eq_error_iff] at fails
  rcases fails with ⟨_, _, rfl⟩ | ⟨_, unresolved⟩
  · rfl
  · exact (Column.resolve_error_names_column unresolved).1

/-- The columns of one table are, up to order, those that failed and those that
became fields. -/
theorem perm_outcomesAfter
    (settings : Settings)
    (registry : EnumRegistry)
    (table : String)
    (seen columns : List Column)
    (stamped : ∀ column ∈ columns, column.table = table) :
    ((errorsOf (settings.outcomesAfter registry seen columns)).map
        ResolutionError.location
      ++ (valuesOf (settings.outcomesAfter registry seen columns)).map
        fun field => (table, field.reportedName)).Perm
      (columns.map fun column => (table, column.name)) := by
  induction columns generalizing seen with
  | nil => exact List.Perm.nil
  | cons column rest inductionHypothesis =>
      have restPerm := inductionHypothesis (seen ++ [column])
        fun other member => stamped other (List.mem_cons_of_mem column member)
      have sameTable := stamped column List.mem_cons_self
      rw [outcomesAfter_cons]
      cases judged : settings.outcome registry seen column with
      | error error =>
          rw [errorsOf_cons_error, valuesOf_cons_error, List.map_cons,
            List.map_cons, location_of_outcome judged, sameTable]
          exact restPerm.cons _
      | ok field =>
          obtain ⟨_, type, _, rfl⟩ :=
            (outcome_eq_ok_iff settings registry seen column field).mp judged
          rw [errorsOf_cons_ok, valuesOf_cons_ok, List.map_cons, List.map_cons]
          exact List.perm_middle.trans (restPerm.cons _)

/-- When the columns of each table carry its name, the places of a report are,
up to order, the columns that remain of each table. -/
theorem perm_accounted_generate
    (settings : Settings)
    (rows : List EnumRow)
    (inputs : List ReportedTable)
    (stamped : ∀ input ∈ inputs, ∀ column ∈ input.columns,
      column.table = input.name) :
    ((settings.generate rows inputs).failedColumns
      ++ (settings.generate rows inputs).emittedColumns).Perm
      (inputs.flatMap fun input =>
        (Column.keepFirst input.columns).map fun column =>
          (input.name, column.name)) := by
  rw [Report.failedColumns, Report.emittedColumns, errors_generate,
    tables_generate, List.map_flatMap, List.flatMap_map]
  refine (List.flatMap_append_perm inputs _ _).trans
    (List.Perm.flatMap_left inputs ?_)
  intro input member
  apply perm_outcomesAfter settings (EnumRegistry.ofRows rows) input.name []
  intro column kept
  exact stamped input member column
    ((firstsBy_sublist Column.name input.columns).subset kept)

/-- The columns that remain of differently named tables are pairwise
different. -/
theorem nodup_remaining_columns
    (inputs : List ReportedTable)
    (distinct : (inputs.map ReportedTable.name).Nodup) :
    (inputs.flatMap fun input =>
      (Column.keepFirst input.columns).map fun column =>
        (input.name, column.name)).Nodup := by
  refine List.nodup_flatMap.mpr ⟨?_, ?_⟩
  · intro input _
    refine List.pairwise_map.mpr
      ((firstsBy_pairwise Column.name input.columns).imp
        fun different equal => ?_)
    exact different (congrArg Prod.snd equal)
  · refine (List.pairwise_map.mp distinct).imp fun different => ?_
    intro pair inFirst inSecond
    obtain ⟨_, _, rfl⟩ := List.mem_map.mp inFirst
    obtain ⟨_, _, equal⟩ := List.mem_map.mp inSecond
    exact different (congrArg Prod.fst equal).symm

/-- The tables that a run against a snapshot generates are the chosen ones. -/
theorem map_name_snapshotInputs (settings : Settings) (snapshot : Snapshot) :
    (settings.snapshotInputs snapshot).map ReportedTable.name =
      settings.chosenTables (snapshot.tableNames settings.schemas) := by
  simp [snapshotInputs, Function.comp_def]

/-- The tables of a report have the names of the tables it was generated
from. -/
theorem map_reportedName_tables_generate
    (settings : Settings)
    (rows : List EnumRow)
    (inputs : List ReportedTable) :
    (settings.generate rows inputs).tables.map TableDecl.reportedName =
      inputs.map ReportedTable.name := by
  rw [tables_generate, List.map_map]
  rfl

/-- A run against a snapshot reports the admitted tables of the selected schemas
in ascending order, and each of their columns once, either as a field or as the
subject of an error. -/
theorem run_accounts_for_each_column
    (settings : Settings)
    (snapshot : Snapshot)
    (report : Report)
    (reported : settings.run snapshot.toSource = .ok report) :
    (report.tables.map TableDecl.reportedName).Pairwise (· < ·) ∧
      (∀ name, name ∈ report.tables.map TableDecl.reportedName ↔
        (∃ table ∈ snapshot.tables,
          table.schema ∈ settings.schemas ∧ table.name = name) ∧
          settings.admits name = true) ∧
      (report.failedColumns ++ report.emittedColumns).Nodup ∧
      ∀ table column,
        (table, column) ∈ report.failedColumns ++ report.emittedColumns ↔
        table ∈ report.tables.map TableDecl.reportedName ∧
          ∃ columns, snapshot.columns table = .ok columns ∧
            column ∈ columns.map Column.name := by
  obtain rfl := eq_generate_of_run_toSource reported
  have ascending :=
    settings.pairwise_chosenTables (snapshot.tableNames settings.schemas)
  have accounted := perm_accounted_generate settings
    (snapshot.enumRows settings.schemas) (settings.snapshotInputs snapshot) (by
      intro input member column present
      obtain ⟨name, _, rfl⟩ := List.mem_map.mp member
      exact Snapshot.table_of_mem_columnsNamed present)
  have distinct :
      ((settings.snapshotInputs snapshot).map ReportedTable.name).Nodup := by
    rw [map_name_snapshotInputs]
    exact nodup_chosenTables settings _
  rw [map_reportedName_tables_generate, map_name_snapshotInputs]
  refine ⟨ascending, ?_,
    accounted.nodup_iff.mpr (nodup_remaining_columns _ distinct), ?_⟩
  · intro name
    rw [mem_chosenTables, Snapshot.mem_tableNames_iff]
  · intro table column
    rw [accounted.mem_iff]
    simp only [snapshotInputs, List.mem_flatMap, List.mem_map,
      exists_exists_and_eq_and, Prod.mk.injEq]
    constructor
    · rintro ⟨name, chosen, kept, member, rfl, rfl⟩
      have listed := ((settings.mem_chosenTables _ name).mp chosen).1
      exact ⟨chosen, _, Snapshot.columns_of_mem_tableNames listed, kept,
        (firstsBy_sublist Column.name _).subset member, rfl⟩
    · rintro ⟨chosen, columns, answered, named⟩
      have listed := ((settings.mem_chosenTables _ table).mp chosen).1
      rw [Snapshot.columns_of_mem_tableNames listed,
        Except.ok.injEq] at answered
      subst answered
      have kept :=
        (mem_map_firstsBy Column.name (snapshot.columnsNamed table) column).mpr
          (List.mem_map.mpr named)
      obtain ⟨remaining, member, sameName⟩ := List.mem_map.mp kept
      exact ⟨table, chosen, remaining, member, rfl, sameName⟩

/-- A snapshot in which a table is captured in two schemas, one column has an
unknown type and another collides in camel case. -/
def crowdedSnapshot : Snapshot where
  tables :=
    [
      { name := "users", columns := [
          { name := "user_id", dataType := "integer" },
          { name := "tags", dataType := "hstore" }] },
      { name := "posts", columns := [
          { name := "id", dataType := "integer" },
          { name := "state", dataType := "USER-DEFINED", isNullable := "YES",
            underlyingType := some "state" }] },
      { schema := "audit", name := "users", columns := [
          { name := "user_id", dataType := "text" },
          { name := "userId", dataType := "date" }] },
      { schema := "audit", name := "log", columns := [
          { name := "id", dataType := "text" }] },
      { name := "knex_lock", columns := [
          { name := "id", dataType := "text" }] }
    ]
  enums := [{ name := "state", values := ["open", "closed"] }]

/-- In camel case the crowded snapshot gives two tables, with three fields and
two failed columns. -/
theorem crowdedSnapshot_accounts :
    ∃ report,
      ({ casing := .camel } : Settings).run crowdedSnapshot.toSource =
        .ok report ∧
      report.tables.map TableDecl.reportedName = ["posts", "users"] ∧
      report.failedColumns = [("users", "tags"), ("users", "userId")] ∧
      report.emittedColumns =
        [("posts", "id"), ("posts", "state"), ("users", "user_id")] ∧
      (report.failedColumns ++ report.emittedColumns).Nodup := by
  let settings : Settings := { casing := .camel }
  let report := settings.generate
    (crowdedSnapshot.enumRows settings.schemas)
    (settings.snapshotInputs crowdedSnapshot)
  have valid :
      settings.validate (crowdedSnapshot.tableNames settings.schemas) =
        .ok () := by
    decide +kernel
  have reported : settings.run crowdedSnapshot.toSource = .ok report := by
    rw [run_toSource, valid]
  obtain ⟨_, _, distinct, _⟩ :=
    run_accounts_for_each_column settings crowdedSnapshot report reported
  refine ⟨report, reported, ?_, ?_, ?_, distinct⟩
  · decide +kernel
  · decide +kernel
  · decide +kernel

end Settings
end TableTypes
