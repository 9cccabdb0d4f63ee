import TableTypes.Proofs.Accounting
import TableTypes.Proofs.FieldColumns

/-!
# Another casing

A casing decides how names are emitted and nothing else. Under the casing that keeps
names as reported no two columns of a table share a field, so that each column is
judged by its type alone. Another casing may emit two columns under one name. Then
the later one loses its field and is reported to collide, and apart from that every
field keeps its column, its type and its place.
-/

namespace TableTypes

namespace FieldDecl

/-- The reported name of a field with its type. -/
def typedName (field : FieldDecl) : String × FieldType :=
  (field.reportedName, field.type)

end FieldDecl

namespace TableDecl

/-- The reported names of the fields of a table with their types. -/
def typedNames (table : TableDecl) : List (String × FieldType) :=
  table.fields.map FieldDecl.typedName

end TableDecl

namespace EnumDecl

/-- The reported name of an enum with its labels. -/
def labelledName (declaration : EnumDecl) : String × List String :=
  (declaration.reportedName, declaration.labels)

end EnumDecl

namespace Settings

/-- A table and its errors under the reported names beside the same table under
another casing. The fields of the second are some of the first in the same order, a
column that fails in the first fails once in the second, and a field that only the
first has is reported in the second to collide with the field that took its name. -/
structure Recases
    (casing : Casing)
    (table recasedTable : TableDecl)
    (errors recasedErrors : List ResolutionError) : Prop where
  sameTable : recasedTable.reportedName = table.reportedName
  fieldsKept : recasedTable.typedNames.Sublist table.typedNames
  failuresKept : ∀ location ∈ errors.map ResolutionError.location,
    (recasedErrors.map ResolutionError.location).count location = 1
  missingCollide : ∀ field ∈ table.fields,
    field.typedName ∉ recasedTable.typedNames ->
      ∃ error ∈ recasedErrors, error.column = field.reportedName ∧
        ∃ holder ∈ recasedTable.fields,
          holder.emittedName = casing.apply field.reportedName ∧
            error.cause = .fieldTaken holder.emittedName holder.reportedName

/-! ## Fields and failures of one table -/

section Table

variable (settings : Settings) (registry : EnumRegistry)

/-- The reported name of a column with its type, when the type is known. -/
def typedName? (column : Column) : Option (String × FieldType) :=
  (column.resolve registry settings.textMinLength).toOption.map (column.name, ·)

/-- A column that no earlier column competes with becomes a field exactly when its
type is known. -/
theorem typedName_outcome_nil (column : Column) :
    (settings.outcome registry [] column).toOption.map FieldDecl.typedName =
      settings.typedName? registry column := by
  rw [typedName?]
  cases typed : column.resolve registry settings.textMinLength with
  | error error =>
      rw [(outcome_eq_error_of_free settings registry [] column rfl error).mpr typed]
      rfl
  | ok type =>
      rw [(outcome_eq_ok_iff settings registry [] column _).mpr
        ⟨rfl, type, typed, rfl⟩]
      rfl

/-- The fields of a table have the names and the types of the columns that become
fields. -/
theorem map_typedName_valuesOf_outcomes (columns : List Column) :
    (valuesOf (settings.outcomes registry columns)).map FieldDecl.typedName =
      (settings.fieldColumns registry columns).filterMap
        (settings.typedName? registry) := by
  rw [valuesOf_outcomes, valuesOf, List.filterMap_map, List.map_filterMap]
  refine List.filterMap_congr fun column _ => ?_
  exact typedName_outcome_nil settings registry column

/-- When names are kept as reported, every column of a known type becomes a field. -/
theorem fieldColumns_of_verbatim
    (verbatim : settings.casing = .verbatim)
    {columns : List Column}
    (distinct : columns.Pairwise fun first second => first.name ≠ second.name) :
    settings.fieldColumns registry columns =
      columns.filter (settings.resolves registry) := by
  refine firstsBy_eq_self ?_
  simp only [verbatim, Casing.apply_verbatim]
  exact distinct.filter _

/-- The columns that fail are columns of the table, in order. -/
theorem failedColumns_sublist (seen columns : List Column) :
    ((errorsOf (settings.outcomesAfter registry seen columns)).map
      ResolutionError.location).Sublist
        (columns.map fun column => (column.table, column.name)) := by
  induction columns generalizing seen with
  | nil => exact List.Sublist.slnil
  | cons column rest inductionHypothesis =>
      rw [outcomesAfter_cons, List.map_cons]
      cases judged : settings.outcome registry seen column with
      | error error =>
          rw [errorsOf_cons_error, List.map_cons, location_of_outcome judged]
          exact (inductionHypothesis _).cons_cons _
      | ok field =>
          rw [errorsOf_cons_ok]
          exact (inductionHypothesis _).cons _

/-- No column of a table fails twice. -/
theorem nodup_failedColumns
    {columns : List Column}
    (distinct : columns.Pairwise fun first second => first.name ≠ second.name) :
    ((errorsOf (settings.outcomes registry columns)).map
      ResolutionError.location).Nodup := by
  have columnsNodup :
      (columns.map fun column => (column.table, column.name)).Nodup :=
    List.pairwise_map.mpr (distinct.imp fun different equal =>
      different (congrArg Prod.snd equal))
  exact (failedColumns_sublist settings registry [] columns).nodup columnsNodup

end Table

/-! ## A table under two casings -/

section Recased

variable
  (settings : Settings)
  (casing : Casing)
  (registry : EnumRegistry)
  {columns : List Column}
  (distinct : columns.Pairwise fun first second => first.name ≠ second.name)

include distinct

/-- The columns that become fields under another casing are some of those that become
fields under their reported names. -/
theorem typedNames_recased_sublist :
    ((valuesOf ({ settings with casing }.outcomes registry columns)).map
      FieldDecl.typedName).Sublist
        ((valuesOf ({ settings with casing := .verbatim }.outcomes registry
          columns)).map FieldDecl.typedName) := by
  rw [map_typedName_valuesOf_outcomes, map_typedName_valuesOf_outcomes,
    fieldColumns_of_verbatim { settings with casing := .verbatim } registry rfl
      distinct]
  exact (firstsBy_sublist _ _).filterMap _

/-- A column that fails under its reported name fails under another casing, where it
may collide instead of showing that its type is not known. -/
theorem failed_recased
    {error : ResolutionError}
    (failed : error ∈ errorsOf
      ({ settings with casing := .verbatim }.outcomes registry columns)) :
    ∃ recasedError ∈ errorsOf ({ settings with casing }.outcomes registry columns),
      recasedError.location = error.location := by
  rw [mem_errorsOf_iff] at failed
  obtain ⟨before, column, after, rfl, fails⟩ :=
    exists_outcome_of_mem_outcomes failed
  have free := holder?_of_verbatim { settings with casing := .verbatim } registry rfl
    distinct
  have unresolved := (outcome_eq_error_of_free _ registry before column free
    error).mp fails
  have unknown : { settings with casing }.resolves registry column = false := by
    rw [resolves]
    exact congrArg Except.toBool unresolved
  obtain ⟨recasedError, recasedFails⟩ := exists_outcome_eq_error_of_not_resolves
    { settings with casing } registry before unknown
  refine ⟨recasedError, ?_, ?_⟩
  · rw [mem_errorsOf_iff, ← recasedFails]
    exact outcome_mem_outcomes _ registry before column after
  · rw [location_of_outcome recasedFails, location_of_outcome fails]

/-- A field that another casing does not keep is reported there to collide with the
field that holds its emitted name. -/
theorem collides_recased
    {field : FieldDecl}
    (declared : field ∈ valuesOf
      ({ settings with casing := .verbatim }.outcomes registry columns))
    (missing : field.typedName ∉
      (valuesOf ({ settings with casing }.outcomes registry columns)).map
        FieldDecl.typedName) :
    ∃ error ∈ errorsOf ({ settings with casing }.outcomes registry columns),
      error.column = field.reportedName ∧
        ∃ holder ∈ valuesOf ({ settings with casing }.outcomes registry columns),
          holder.emittedName = casing.apply field.reportedName ∧
            error.cause = .fieldTaken holder.emittedName holder.reportedName := by
  rw [mem_valuesOf_iff] at declared
  obtain ⟨before, column, after, rfl, declares⟩ :=
    exists_outcome_of_mem_outcomes declared
  obtain ⟨_, type, typed, rfl⟩ := (outcome_eq_ok_iff _ registry before column _).mp
    declares
  have judged := outcome_mem_outcomes { settings with casing } registry before column
    after
  cases held : { settings with casing }.holder? registry before
      (casing.apply column.name) with
  | none =>
      -- The column would be free, and become a field of the same name and type.
      have kept := (outcome_eq_ok_iff { settings with casing } registry before column
        _).mpr ⟨held, type, typed, rfl⟩
      rw [kept, ← mem_valuesOf_iff] at judged
      exact absurd (List.mem_map.mpr ⟨_, judged, rfl⟩) missing
  | some holder =>
      have collides := (outcome_eq_fieldTaken_iff { settings with casing } registry
        before column _ holder.name).mpr ⟨rfl, holder, held, rfl⟩
      obtain ⟨_, earlier, first, later, firstType, rfl, holds⟩ :=
        (outcome_eq_fieldTaken_iff_declared { settings with casing } registry before
          column _ holder.name).mp collides
      rw [collides, ← mem_errorsOf_iff] at judged
      have firstDeclared := outcome_mem_outcomes { settings with casing } registry
        earlier first (later ++ column :: after)
      rw [holds, ← mem_valuesOf_iff] at firstDeclared
      refine ⟨_, judged, rfl, ⟨holder.name, casing.apply column.name, firstType⟩, ?_,
        rfl, rfl⟩
      simpa using firstDeclared

end Recased

/-! ## Reports under two casings -/

/-- A table under another casing. -/
theorem declareTable_recases
    (settings : Settings)
    (casing : Casing)
    (registry : EnumRegistry)
    (input : ReportedTable) :
    let asReported := { settings with casing := .verbatim }.declareTable registry input
    let recased := { settings with casing }.declareTable registry input
    Recases casing asReported.1 recased.1 asReported.2 recased.2 := by
  have distinct := firstsBy_pairwise Column.name input.columns
  simp only [declareTable_eq]
  constructor
  case sameTable => rfl
  case fieldsKept =>
    exact typedNames_recased_sublist settings casing registry distinct
  case failuresKept =>
    intro location failed
    obtain ⟨error, among, rfl⟩ := List.mem_map.mp failed
    obtain ⟨recasedError, recasedAmong, sameLocation⟩ :=
      failed_recased settings casing registry distinct among
    refine List.count_eq_one_of_mem
      (nodup_failedColumns { settings with casing } registry distinct) ?_
    exact sameLocation ▸ List.mem_map_of_mem recasedAmong
  case missingCollide =>
    intro field declared missing
    exact collides_recased settings casing registry distinct declared missing

/-- Settings that differ in the casing alone generate reports of the same enums and
the same tables, and in each table the other casing changes no more than the emitted
names and the collisions that they bring. -/
theorem generate_recases
    (settings : Settings)
    (casing : Casing)
    (rows : List EnumRow)
    (inputs : List ReportedTable) :
    let registry := EnumRegistry.ofRows rows
    let asReported := inputs.map
      ({ settings with casing := .verbatim }.declareTable registry)
    let recased := inputs.map ({ settings with casing }.declareTable registry)
    let report := { settings with casing := .verbatim }.generate rows inputs
    let recasedReport := { settings with casing }.generate rows inputs
    (report.tables = asReported.map Prod.fst ∧
        report.errors = asReported.flatMap Prod.snd) ∧
      (recasedReport.tables = recased.map Prod.fst ∧
        recasedReport.errors = recased.flatMap Prod.snd) ∧
      List.Forall₂ (fun declared other =>
          Recases casing declared.1 other.1 declared.2 other.2)
        asReported recased ∧
      recasedReport.enums.map EnumDecl.labelledName =
        report.enums.map EnumDecl.labelledName := by
  intro registry asReported recased report recasedReport
  refine ⟨⟨rfl, rfl⟩, ⟨rfl, rfl⟩, ?_, ?_⟩
  · rw [List.forall₂_map_left_iff, List.forall₂_map_right_iff, List.forall₂_same]
    intro input _
    exact declareTable_recases settings casing registry input
  · simp only [report, recasedReport, enums_generate, List.map_map]
    rfl

/-- Under camel case `userId` loses its field to `user_id`, and `tags` fails as it does
under the reported names. -/
theorem user_id_keeps_field_under_camel :
    let settings : Settings := { textMinLength := some 1 }
    let input : ReportedTable := ⟨"users", [
      { table := "users", name := "user_id", typeText := "integer" },
      { table := "users", name := "tags", typeText := "hstore" },
      { table := "users", name := "userId", typeText := "text" }
    ]⟩
    let registry := EnumRegistry.ofRows [⟨"role", "user"⟩]
    let asReported := settings.declareTable registry input
    let recased := { settings with casing := .camel }.declareTable registry input
    asReported.1.typedNames =
        [("user_id", .number {}), ("userId", .text { minLength := some 1 })] ∧
      recased.1.typedNames = [("user_id", .number {})] ∧
      asReported.2.map ResolutionError.location = [("users", "tags")] ∧
      recased.2.map ResolutionError.cause =
        [.unknownType "hstore", .fieldTaken "userId" "user_id"] ∧
      Recases .camel asReported.1 recased.1 asReported.2 recased.2 := by
  intro settings input registry asReported recased
  have sameTables := (generate_recases settings .camel [⟨"role", "user"⟩]
    [input]).2.2.1
  refine ⟨by decide +kernel, by decide +kernel, by decide +kernel, by decide +kernel,
    ?_⟩
  exact (List.forall₂_cons.mp sameTables).1

end Settings
end TableTypes
