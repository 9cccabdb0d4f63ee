import TableTypes.Run

/-!
# Runs against snapshots

A snapshot answers every question that a run asks it, for a run asks only for
the columns of tables that the snapshot has listed. What is left of a run is the
validation of its settings and the generation from what was captured.
-/

namespace TableTypes

namespace Snapshot

/-- The reported columns of all tables of one name. -/
def columnsNamed (snapshot : Snapshot) (name : String) : List Column :=
  (snapshot.tables.filter fun table => table.name = name).flatMap fun table =>
    table.columns.map (CatalogueRow.toColumn name)

/-- The columns of the tables of one name carry that name. -/
theorem table_of_mem_columnsNamed
    {snapshot : Snapshot}
    {name : String}
    {column : Column}
    (member : column ∈ snapshot.columnsNamed name) :
    column.table = name := by
  simp only [columnsNamed, List.mem_flatMap, List.mem_map] at member
  obtain ⟨_, _, _, _, rfl⟩ := member
  rfl

/-- A table is listed when it is captured in one of the schemas. -/
theorem mem_tableNames_iff
    (snapshot : Snapshot)
    (schemas : NameSet)
    (name : String) :
    name ∈ snapshot.tableNames schemas ↔
      ∃ table ∈ snapshot.tables,
        table.schema ∈ schemas ∧ table.name = name := by
  simp [tableNames, and_assoc]

/-- A listed table has an answer to the question for its columns. -/
theorem columns_of_mem_tableNames
    {snapshot : Snapshot}
    {schemas : NameSet}
    {name : String}
    (listed : name ∈ snapshot.tableNames schemas) :
    snapshot.columns name = .ok (snapshot.columnsNamed name) := by
  obtain ⟨table, captured, _, rfl⟩ :=
    (snapshot.mem_tableNames_iff schemas name).mp listed
  have found :
      table ∈ snapshot.tables.filter fun other => other.name = table.name := by
    simp [captured]
  unfold columns columns? columnsNamed
  cases tables :
      snapshot.tables.filter fun other => other.name = table.name with
  | nil => simp [tables] at found
  | cons first rest => rfl

end Snapshot

namespace Trace

@[simp] theorem ask_ok (query : Query) (value : α) :
    ask query (.ok value) = ⟨[query], .ok value⟩ := rfl

@[simp] theorem check_ok (checked : Unit) :
    check (.ok checked) = ⟨[], .ok ()⟩ := rfl

@[simp] theorem check_error (error : SettingsError) :
    check (.error error) = ⟨[], .error (.settings error)⟩ := rfl

@[simp] theorem mk_ok_bind
    (queries : List Query)
    (value : α)
    (next : α -> Trace β) :
    ((⟨queries, .ok value⟩ : Trace α) >>= next) =
      ⟨queries ++ (next value).queries, (next value).result⟩ := rfl

@[simp] theorem mk_error_bind
    (queries : List Query)
    (error : RunError)
    (next : α -> Trace β) :
    ((⟨queries, .error error⟩ : Trace α) >>= next) =
      ⟨queries, .error error⟩ := rfl

end Trace

namespace Source

/-- When every table has columns, each is asked for them once and in order. -/
theorem loadTables_eq_of_columns
    (source : Source)
    (columnsOf : String -> List Column)
    (names : List String)
    (answered : ∀ name ∈ names, source.columns name = .ok (columnsOf name)) :
    source.loadTables names =
      ⟨names.map Query.columns,
        .ok (names.map fun name => ⟨name, columnsOf name⟩)⟩ := by
  induction names with
  | nil => rfl
  | cons name rest inductionHypothesis =>
      have loaded := inductionHypothesis fun other member =>
        answered other (List.mem_cons_of_mem name member)
      rw [loadTables, answered name List.mem_cons_self, loaded]
      simp

end Source

namespace Settings

/-- The tables of a snapshot that a run generates, with their columns. -/
def snapshotInputs
    (settings : Settings)
    (snapshot : Snapshot) : List ReportedTable :=
  (settings.chosenTables (snapshot.tableNames settings.schemas)).map fun name =>
    ⟨name, snapshot.columnsNamed name⟩

/-- A run against a snapshot validates the settings against the listed tables,
and then generates from what was captured. -/
theorem run_toSource (settings : Settings) (snapshot : Snapshot) :
    settings.run snapshot.toSource =
      match settings.validate (snapshot.tableNames settings.schemas) with
      | .error error => .error (.settings error)
      | .ok () => .ok (settings.generate
          (snapshot.enumRows settings.schemas)
          (settings.snapshotInputs snapshot)) := by
  have loaded := snapshot.toSource.loadTables_eq_of_columns
    snapshot.columnsNamed
    (settings.chosenTables (snapshot.tableNames settings.schemas))
    (fun name chosen => Snapshot.columns_of_mem_tableNames
      ((settings.mem_chosenTables _ name).mp chosen).1)
  simp only [Snapshot.toSource] at loaded ⊢
  unfold run trace validate
  cases settings.validateValues with
  | error error => simp
  | ok _ =>
      cases valid : settings.validateTables
          (snapshot.tableNames settings.schemas) with
      | error error => simp [valid]
      | ok _ => simp [valid, loaded, snapshotInputs]

/-- The report of a run against a snapshot is generated from what was
captured. -/
theorem eq_generate_of_run_toSource
    {settings : Settings}
    {snapshot : Snapshot}
    {report : Report}
    (reported : settings.run snapshot.toSource = .ok report) :
    report = settings.generate
      (snapshot.enumRows settings.schemas)
      (settings.snapshotInputs snapshot) := by
  rw [run_toSource] at reported
  split at reported
  · cases reported
  · cases reported
    rfl

end Settings
end TableTypes
