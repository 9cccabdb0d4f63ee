import TableTypes.Proofs.Accounting

/-!
# Every unmapped column is reported

A column whose type is not known does not end a generation, so that one report
shows all of them. It is reported with the error of its resolution, unless an
earlier column of its table holds the field of its emitted name. Then it is
reported to collide, and the error of its resolution is not shown.
-/

namespace TableTypes
namespace Settings

section Reported

variable
  {settings : Settings}
  {rows : List EnumRow}
  {inputs : List ReportedTable}
  {input : ReportedTable}
  {before after : List Column}
  {column : Column}
  {error : ResolutionError}

/-- The error that a remaining column of a table becomes is reported. -/
theorem mem_errors_of_outcome
    (given : input ∈ inputs)
    (remaining : Column.keepFirst input.columns = before ++ column :: after)
    (fails : settings.outcome (EnumRegistry.ofRows rows) before column =
      .error error) :
    error ∈ (settings.generate rows inputs).errors := by
  rw [errors_generate]
  refine List.mem_flatMap.mpr ⟨input, given, ?_⟩
  rw [mem_errorsOf_iff, remaining, ← fails]
  exact outcome_mem_outcomes settings _ before column after

/-- Every reported error is one that a remaining column of a table becomes. -/
theorem exists_outcome_of_mem_errors
    (reported : error ∈ (settings.generate rows inputs).errors) :
    ∃ input ∈ inputs, ∃ before column after,
      Column.keepFirst input.columns = before ++ column :: after ∧
        settings.outcome (EnumRegistry.ofRows rows) before column =
          .error error := by
  rw [errors_generate, List.mem_flatMap] at reported
  obtain ⟨input, given, among⟩ := reported
  obtain ⟨before, column, after, remaining, fails⟩ :=
    exists_outcome_of_mem_outcomes ((mem_errorsOf_iff _ error).mp among)
  exact ⟨input, given, before, column, after, remaining, fails⟩

/-- The error of resolution is reported when no earlier column of the emitted name
has a known type. -/
theorem mem_errors_of_resolve
    (given : input ∈ inputs)
    (remaining : Column.keepFirst input.columns = before ++ column :: after)
    (unresolved : ∀ other ∈ before,
      settings.casing.apply other.name = settings.casing.apply column.name ->
        settings.resolves (EnumRegistry.ofRows rows) other = false)
    (unmapped : column.resolve (EnumRegistry.ofRows rows)
      settings.textMinLength = .error error) :
    error ∈ (settings.generate rows inputs).errors := by
  have free := (holder?_eq_none_iff settings (EnumRegistry.ofRows rows) before
    (settings.casing.apply column.name)).mpr unresolved
  refine mem_errors_of_outcome given remaining ?_
  exact (outcome_eq_error_of_free settings _ before column free error).mpr
    unmapped

/-- When names are kept as reported, no two columns that remain share a field, so
that every error of resolution is reported. -/
theorem mem_errors_of_resolve_verbatim
    (verbatim : settings.casing = .verbatim)
    (given : input ∈ inputs)
    (remains : column ∈ Column.keepFirst input.columns)
    (unmapped : column.resolve (EnumRegistry.ofRows rows)
      settings.textMinLength = .error error) :
    error ∈ (settings.generate rows inputs).errors := by
  obtain ⟨before, after, remaining⟩ := List.append_of_mem remains
  have distinct : (before ++ column :: after).Pairwise
      fun first second => first.name ≠ second.name :=
    remaining ▸ firstsBy_pairwise Column.name input.columns
  have free := holder?_of_verbatim settings (EnumRegistry.ofRows rows) verbatim distinct
  exact mem_errors_of_resolve given remaining
    ((holder?_eq_none_iff settings _ before _).mp free) unmapped

/-- A column is located among the failed columns when it becomes an error. -/
theorem mem_failedColumns_of_outcome
    (given : input ∈ inputs)
    (remaining : Column.keepFirst input.columns = before ++ column :: after)
    (fails : settings.outcome (EnumRegistry.ofRows rows) before column =
      .error error) :
    (column.table, column.name) ∈
      (settings.generate rows inputs).failedColumns := by
  rw [← location_of_outcome fails]
  exact List.mem_map_of_mem (mem_errors_of_outcome given remaining fails)

end Reported

/-- Of the columns that remain of a table, one whose type is not known is among
the failed columns of the report. The error of its resolution is reported when no
earlier column of its emitted name has a known type. Otherwise the first such
column holds the field, and the reported error names the field and this
column. -/
theorem unmapped_column_reported
    (settings : Settings)
    (rows : List EnumRow)
    (inputs : List ReportedTable)
    (input : ReportedTable)
    (before after : List Column)
    (column : Column)
    (error : ResolutionError)
    (given : input ∈ inputs)
    (remaining : Column.keepFirst input.columns = before ++ column :: after)
    (unmapped : column.resolve (EnumRegistry.ofRows rows)
      settings.textMinLength = .error error) :
    let report := settings.generate rows inputs
    let registry := EnumRegistry.ofRows rows
    let field := settings.casing.apply column.name
    (column.table, column.name) ∈ report.failedColumns ∧
      ((∀ other ∈ before, settings.casing.apply other.name = field ->
          settings.resolves registry other = false) ->
        error ∈ report.errors) ∧
      ∀ holder, settings.holder? registry before field = some holder ->
        .ofColumn column (.fieldTaken field holder.name) ∈ report.errors := by
  intro report registry field
  have collides (holder : Column)
      (held : settings.holder? registry before field = some holder) :
      settings.outcome registry before column =
        .error (.ofColumn column (.fieldTaken field holder.name)) :=
    (outcome_eq_fieldTaken_iff settings registry before column field
      holder.name).mpr ⟨rfl, holder, held, rfl⟩
  refine ⟨?_, fun unresolved => ?_, fun holder held => ?_⟩
  · cases held : settings.holder? registry before field with
    | none =>
        have fails :=
          (outcome_eq_error_of_free settings registry before column held
            error).mpr unmapped
        exact mem_failedColumns_of_outcome given remaining fails
    | some holder =>
        exact mem_failedColumns_of_outcome given remaining
          (collides holder held)
  · exact mem_errors_of_resolve given remaining unresolved unmapped
  · exact mem_errors_of_outcome given remaining (collides holder held)

/-- Of two columns of unknown types, one whose field is free is reported with the
error of its resolution, and one whose field is held is reported to collide. -/
theorem tags_and_taken_field_reported :
    let settings : Settings := { casing := .camel }
    let id : Column :=
      { table := "users", name := "user_id", typeText := "integer" }
    let tags : Column :=
      { table := "users", name := "tags", typeText := "hstore" }
    let userId : Column :=
      { table := "users", name := "userId", typeText := "tsvector" }
    let input : ReportedTable := ⟨"users", [id, tags, id, userId]⟩
    let report := settings.generate [] [input]
    Column.keepFirst input.columns = [id, tags, userId] ∧
      tags.resolve (EnumRegistry.ofRows []) settings.textMinLength =
        .error (.ofColumn tags (.unknownType "hstore")) ∧
      .ofColumn tags (.unknownType "hstore") ∈ report.errors ∧
      userId.resolve (EnumRegistry.ofRows []) settings.textMinLength =
        .error (.ofColumn userId (.unknownType "tsvector")) ∧
      .ofColumn userId (.fieldTaken "userId" "user_id") ∈ report.errors := by
  intro settings id tags userId input report
  have remaining : Column.keepFirst input.columns = [id, tags, userId] := by
    decide +kernel
  have tagsUnmapped :
      tags.resolve (EnumRegistry.ofRows []) settings.textMinLength =
        .error (.ofColumn tags (.unknownType "hstore")) := by
    decide +kernel
  have userIdUnmapped :
      userId.resolve (EnumRegistry.ofRows []) settings.textMinLength =
        .error (.ofColumn userId (.unknownType "tsvector")) := by
    decide +kernel
  have tagsReported := (unmapped_column_reported settings [] [input] input
    [id] [userId] tags _ List.mem_cons_self remaining tagsUnmapped).2.1
  have userIdReported := (unmapped_column_reported settings [] [input] input
    [id, tags] [] userId _ List.mem_cons_self remaining userIdUnmapped).2.2
  have emitted : settings.casing.apply userId.name = "userId" := by
    decide +kernel
  rw [emitted] at userIdReported
  refine ⟨remaining, tagsUnmapped, tagsReported ?_, userIdUnmapped,
    userIdReported id ?_⟩
  · decide +kernel
  · decide +kernel

/-- The unknown type of a column is not reported when an earlier column holds its
field. -/
theorem taken_field_hides_unknown_type :
    let settings : Settings := { casing := .camel }
    let userId : Column :=
      { table := "users", name := "userId", typeText := "hstore" }
    let input : ReportedTable := ⟨"users", [
      { table := "users", name := "user_id", typeText := "integer" },
      userId
    ]⟩
    let error := ResolutionError.ofColumn userId (.unknownType "hstore")
    userId ∈ Column.keepFirst input.columns ∧
      userId.resolve (EnumRegistry.ofRows []) settings.textMinLength =
        .error error ∧
      error ∉ (settings.generate [] [input]).errors := by
  intro settings userId input error
  have onlyCollision : (settings.generate [] [input]).errors =
      [.ofColumn userId (.fieldTaken "userId" "user_id")] := by
    decide +kernel
  refine ⟨by decide +kernel, by decide +kernel, ?_⟩
  rw [onlyCollision]
  decide +kernel

end Settings
end TableTypes
