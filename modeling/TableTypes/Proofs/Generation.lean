import TableTypes.Proofs.ColumnOutcome
import TableTypes.Proofs.Enum.Registry

/-!
# Generation column by column

The walk over the columns of a table declares exactly the fields and errors that
the outcome of each column calls for. The invariant of the walk is that the
partly built declaration finds a field under a name exactly when one of the
columns seen so far holds that field.
-/

namespace TableTypes

namespace TableDecl

/-- A field that was there before is found before the one that was added. -/
theorem field?_addField
    (table : TableDecl)
    (casing : Casing)
    (reportedName : String)
    (type : FieldType)
    (field : String) :
    (table.addField casing reportedName type).field? field =
      (table.field? field).or
        (if casing.apply reportedName = field then
          some ⟨reportedName, casing.apply reportedName, type⟩
        else none) := by
  unfold field? addField
  rw [List.find?_append]
  congr 1
  by_cases emitted : casing.apply reportedName = field <;> simp [emitted]

end TableDecl

namespace Settings

/-- The declaration finds a field exactly when one of the columns seen holds it,
and then under the name of that column. -/
def TracksHolders
    (settings : Settings)
    (registry : EnumRegistry)
    (declared : TableDecl)
    (seen : List Column) : Prop :=
  ∀ field,
    (declared.field? field).map FieldDecl.reportedName =
      (settings.holder? registry seen field).map Column.name

/-- What becomes of each column after the columns seen so far. -/
def outcomesAfter
    (settings : Settings)
    (registry : EnumRegistry)
    (seen columns : List Column) : List (Except ResolutionError FieldDecl) :=
  columns.mapIdx fun position column =>
    settings.outcome registry (seen ++ columns.take position) column

/-- The first column is judged by the columns seen, and the rest also by the
first. -/
theorem outcomesAfter_cons
    (settings : Settings)
    (registry : EnumRegistry)
    (seen : List Column)
    (column : Column)
    (rest : List Column) :
    settings.outcomesAfter registry seen (column :: rest) =
      settings.outcome registry seen column ::
        settings.outcomesAfter registry (seen ++ [column]) rest := by
  unfold outcomesAfter
  rw [List.mapIdx_cons]
  simp only [List.take_zero, List.append_nil, List.take_succ_cons,
    List.append_assoc, List.singleton_append]

/-! ## One step of the walk -/

section Step

variable
  {settings : Settings}
  {registry : EnumRegistry}
  {declared : TableDecl}
  {seen : List Column}
  {column : Column}

/-- The walk judges a column by its declaration as the outcome judges it by the
columns seen. -/
theorem fieldType_of_tracks
    (tracks : settings.TracksHolders registry declared seen)
    (column : Column) :
    settings.fieldType registry declared column =
      (settings.outcome registry seen column).map FieldDecl.type := by
  have sameHolder := tracks (settings.casing.apply column.name)
  cases held : settings.holder? registry seen
      (settings.casing.apply column.name) with
  | none =>
      rw [held, Option.map_none, Option.map_eq_none_iff] at sameHolder
      cases typed : column.resolve registry settings.textMinLength with
      | error error =>
          simp [fieldType, outcome, sameHolder, held, typed, Except.map]
      | ok type =>
          simp [fieldType, outcome, sameHolder, held, typed, Except.map]
  | some holder =>
      rw [held, Option.map_some, Option.map_eq_some_iff] at sameHolder
      obtain ⟨field, found, sameName⟩ := sameHolder
      simp [fieldType, outcome, found, held, sameName, Except.map]

/-- A column that becomes a field is tracked once the field is added. -/
theorem TracksHolders.addField
    (tracks : settings.TracksHolders registry declared seen)
    {field : FieldDecl}
    (declares : settings.outcome registry seen column = .ok field) :
    settings.TracksHolders registry
      (declared.addField settings.casing column.name field.type)
      (seen ++ [column]) := by
  obtain ⟨_, type, typed, _⟩ :=
    (outcome_eq_ok_iff settings registry seen column field).mp declares
  have resolved := (resolves_iff settings registry column).mpr ⟨type, typed⟩
  intro name
  rw [TableDecl.field?_addField, holder?_append, Option.map_or, Option.map_or,
    tracks name]
  congr 1
  by_cases emitted : settings.casing.apply column.name = name <;>
    simp [emitted, resolved]

/-- A column that becomes an error holds no field. -/
theorem TracksHolders.skip
    (tracks : settings.TracksHolders registry declared seen)
    {error : ResolutionError}
    (fails : settings.outcome registry seen column = .error error) :
    settings.TracksHolders registry declared (seen ++ [column]) := by
  intro name
  rw [tracks name, holder?_append]
  cases held : settings.holder? registry seen name with
  | some holder => rfl
  | none =>
      rw [if_neg]
      · rfl
      · -- Otherwise the column would be free and resolved, and become a field.
        rintro ⟨rfl, resolved⟩
        obtain ⟨type, typed⟩ :=
          (resolves_iff settings registry column).mp resolved
        rw [outcome_eq_error_of_free settings registry seen column held,
          typed] at fails
        cases fails

end Step

/-! ## The whole walk -/

/-- The walk adds the fields of the outcomes in order and reports their errors
in order. -/
theorem declareColumns_of_tracks
    {settings : Settings}
    {registry : EnumRegistry}
    {declared : TableDecl}
    {seen : List Column}
    (tracks : settings.TracksHolders registry declared seen)
    (columns : List Column) :
    settings.declareColumns registry declared columns =
      ({ declared with
          fields := declared.fields
            ++ valuesOf (settings.outcomesAfter registry seen columns) },
        errorsOf (settings.outcomesAfter registry seen columns)) := by
  -- The declaration and the columns seen grow together, tied by `tracks`.
  induction columns generalizing declared seen with
  | nil => simp [declareColumns, outcomesAfter]
  | cons column rest inductionHypothesis =>
      rw [declareColumns, fieldType_of_tracks tracks, outcomesAfter_cons]
      cases judged : settings.outcome registry seen column with
      | error error =>
          simp only [Except.map, valuesOf_cons_error, errorsOf_cons_error]
          rw [inductionHypothesis (tracks.skip judged)]
      | ok field =>
          obtain ⟨_, type, _, rfl⟩ :=
            (outcome_eq_ok_iff settings registry seen column field).mp judged
          simp only [Except.map, valuesOf_cons_ok, errorsOf_cons_ok]
          rw [inductionHypothesis (tracks.addField judged)]
          simp [TableDecl.addField]

/-- A table without fields tracks that no column has been seen. -/
theorem tracksHolders_named
    (settings : Settings)
    (registry : EnumRegistry)
    (name : String) :
    settings.TracksHolders registry (TableDecl.named settings.casing name) [] :=
  fun _ => rfl

/-- A table declares the fields of the outcomes of its columns, and reports
their errors. -/
theorem declareTable_eq
    (settings : Settings)
    (registry : EnumRegistry)
    (input : ReportedTable) :
    settings.declareTable registry input =
      ({ TableDecl.named settings.casing input.name with
          fields := valuesOf
            (settings.outcomes registry (Column.keepFirst input.columns)) },
        errorsOf (settings.outcomes registry
          (Column.keepFirst input.columns))) := by
  unfold declareTable
  rw [declareColumns_of_tracks
    (tracksHolders_named settings registry input.name)]
  rfl

/-! ## Reports -/

/-- Every column becomes a field exactly when every type is known, no field is
held by a column seen before, and no two columns are emitted under one name. -/
theorem errorsOf_outcomesAfter_eq_nil_iff
    (settings : Settings)
    (registry : EnumRegistry)
    (seen columns : List Column) :
    errorsOf (settings.outcomesAfter registry seen columns) = [] ↔
      (∀ column ∈ columns, settings.resolves registry column = true ∧
        settings.holder? registry seen
          (settings.casing.apply column.name) = none) ∧
      columns.Pairwise fun first second =>
        settings.casing.apply first.name ≠
          settings.casing.apply second.name := by
  induction columns generalizing seen with
  | nil => simp [outcomesAfter]
  | cons column rest inductionHypothesis =>
      rw [outcomesAfter_cons, List.forall_mem_cons, List.pairwise_cons]
      cases judged : settings.outcome registry seen column with
      | error error =>
          have notField :
              ¬(settings.resolves registry column = true ∧
                settings.holder? registry seen
                  (settings.casing.apply column.name) = none) := by
            rintro ⟨resolved, free⟩
            obtain ⟨type, typed⟩ :=
              (resolves_iff settings registry column).mp resolved
            rw [outcome_eq_error_of_free settings registry seen column free,
              typed] at judged
            cases judged
          simp [notField]
      | ok field =>
          obtain ⟨free, type, typed, _⟩ :=
            (outcome_eq_ok_iff settings registry seen column field).mp judged
          have resolved :=
            (resolves_iff settings registry column).mpr ⟨type, typed⟩
          -- This column holds its field from here on, so that the condition
          -- on the columns seen becomes the first part of the pairwise one.
          rw [errorsOf_cons_ok, inductionHypothesis]
          simp only [holder?_append, Option.or_eq_none_iff, resolved, free]
          grind

/-- Every column of a table becomes a field exactly when every type is known and
no two columns are emitted under one name. -/
theorem errorsOf_outcomes_eq_nil_iff
    (settings : Settings)
    (registry : EnumRegistry)
    (columns : List Column) :
    errorsOf (settings.outcomes registry columns) = [] ↔
      (∀ column ∈ columns, settings.resolves registry column = true) ∧
      columns.Pairwise fun first second =>
        settings.casing.apply first.name ≠
          settings.casing.apply second.name := by
  have afterNone :=
    errorsOf_outcomesAfter_eq_nil_iff settings registry [] columns
  simp only [holder?, List.find?_nil, and_true] at afterNone
  exact afterNone

/-- The tables of a report, with the fields that the outcomes of their columns
call for. -/
theorem tables_generate
    (settings : Settings)
    (rows : List EnumRow)
    (inputs : List ReportedTable) :
    (settings.generate rows inputs).tables = inputs.map fun input =>
      { TableDecl.named settings.casing input.name with
          fields := valuesOf (settings.outcomes (EnumRegistry.ofRows rows)
            (Column.keepFirst input.columns)) } := by
  change (inputs.map (settings.declareTable (EnumRegistry.ofRows rows))).map
    Prod.fst = _
  simp only [List.map_map, Function.comp_def, declareTable_eq]

/-- The errors of a report are those of the outcomes of all columns. -/
theorem errors_generate
    (settings : Settings)
    (rows : List EnumRow)
    (inputs : List ReportedTable) :
    (settings.generate rows inputs).errors = inputs.flatMap fun input =>
      errorsOf (settings.outcomes (EnumRegistry.ofRows rows)
        (Column.keepFirst input.columns)) := by
  change (inputs.map (settings.declareTable (EnumRegistry.ofRows rows))).flatMap
    Prod.snd = _
  simp only [List.flatMap_map, declareTable_eq]

/-- The enums of a report are the registered ones. -/
theorem enums_generate
    (settings : Settings)
    (rows : List EnumRow)
    (inputs : List ReportedTable) :
    (settings.generate rows inputs).enums =
      (EnumRegistry.ofRows rows).enums.map
        (EnumDecl.ofEnumeration settings.casing) := rfl

/-- The enums of a report are named by the rows it was generated from, each at its
first row. -/
theorem map_reportedName_enums_generate
    (settings : Settings)
    (rows : List EnumRow)
    (inputs : List ReportedTable) :
    (settings.generate rows inputs).enums.map EnumDecl.reportedName =
      firstsBy id (rows.map EnumRow.enumName) := by
  rw [enums_generate, List.map_map, ← EnumRegistry.map_name_ofRows]
  rfl

/-- A report declares no enum twice. -/
theorem nodup_enums_generate
    (settings : Settings)
    (rows : List EnumRow)
    (inputs : List ReportedTable) :
    ((settings.generate rows inputs).enums.map
      EnumDecl.reportedName).Nodup := by
  rw [map_reportedName_enums_generate]
  exact nodup_firstsBy_id _

/-- The output of a report is the text of its declarations. -/
theorem output_generate
    (settings : Settings)
    (rows : List EnumRow)
    (inputs : List ReportedTable) :
    (settings.generate rows inputs).output =
      Script.unitText settings.casing
        ((EnumRegistry.ofRows rows).enums.map
          (EnumDecl.ofEnumeration settings.casing))
        (settings.generate rows inputs).tables := rfl

/-- A report is complete exactly when the outcomes of no table have an error. -/
theorem isComplete_generate_iff
    (settings : Settings)
    (rows : List EnumRow)
    (inputs : List ReportedTable) :
    (settings.generate rows inputs).isComplete = true ↔
      ∀ input ∈ inputs,
        errorsOf (settings.outcomes (EnumRegistry.ofRows rows)
          (Column.keepFirst input.columns)) = [] := by
  rw [Report.isComplete, List.isEmpty_iff, errors_generate,
    List.flatMap_eq_nil_iff]

/-- A report declares the tables in order. Of the columns of a table that share
a name the first counts; it becomes the field of its emitted name when its type
is known and no earlier column holds the field, it is reported to collide when
one does, and otherwise it is reported with the error of its resolution. -/
theorem generate_declares_or_reports_each_column
    (settings : Settings)
    (rows : List EnumRow)
    (inputs : List ReportedTable) :
    let registry := EnumRegistry.ofRows rows
    let report := settings.generate rows inputs
    let columns := fun input : ReportedTable =>
      firstOccurrences Column.name input.columns
    let emitted := fun column : Column => settings.casing.apply column.name
    report.tables = inputs.map (fun input =>
        { TableDecl.named settings.casing input.name with
            fields := valuesOf (settings.outcomes registry (columns input)) }) ∧
      report.errors = inputs.flatMap (fun input =>
        errorsOf (settings.outcomes registry (columns input))) ∧
      (report.isComplete = true ↔
        ∀ input ∈ inputs,
          (∀ column ∈ columns input, settings.resolves registry column = true) ∧
          (columns input).Pairwise fun first second =>
            emitted first ≠ emitted second) ∧
      ∀ earlier column,
        (∀ field, settings.outcome registry earlier column = .ok field ↔
          (∃ type, column.resolve registry settings.textMinLength = .ok type ∧
            field = ⟨column.name, emitted column, type⟩) ∧
          ∀ other ∈ earlier, emitted other = emitted column ->
            settings.resolves registry other = false) ∧
        ((∃ first, settings.outcome registry earlier column =
            .error (.ofColumn column (.fieldTaken (emitted column) first))) ↔
          ∃ other ∈ earlier, emitted other = emitted column ∧
            settings.resolves registry other = true) ∧
        (∀ field first, settings.outcome registry earlier column =
            .error (.ofColumn column (.fieldTaken field first)) ↔
          field = emitted column ∧
            ∃ before holder after type, earlier = before ++ holder :: after ∧
              settings.outcome registry before holder =
                .ok ⟨first, field, type⟩) ∧
        ((∀ other ∈ earlier, emitted other = emitted column ->
            settings.resolves registry other = false) ->
          ∀ error, settings.outcome registry earlier column = .error error ↔
            column.resolve registry settings.textMinLength = .error error) := by
  intro registry report columns emitted
  have sameColumns (input : ReportedTable) :
      Column.keepFirst input.columns = columns input :=
    firstsBy_eq_firstOccurrences Column.name input.columns
  refine ⟨?_, ?_, ?_, fun earlier column => ⟨?_, ?_, ?_, ?_⟩⟩
  · simp only [report, tables_generate, sameColumns, registry]
  · simp only [report, errors_generate, sameColumns, registry]
  · simp only [report, isComplete_generate_iff, errorsOf_outcomes_eq_nil_iff,
      sameColumns, registry, emitted]
  · intro field
    rw [outcome_eq_ok_iff, holder?_eq_none_iff]
    exact and_comm
  · exact exists_outcome_eq_fieldTaken_iff settings registry earlier column
  · exact outcome_eq_fieldTaken_iff_declared settings registry earlier column
  · intro free
    exact outcome_eq_error_of_free settings registry earlier column
      ((holder?_eq_none_iff settings registry earlier _).mpr free)

end Settings
end TableTypes
