import TableTypes.Proofs.Diagnostics
import TableTypes.Proofs.Enum.ArrayLiteral
import TableTypes.Proofs.SchemaIsolation

/-!
# Which captured enums are declared

A captured enum is listed label by label, so an enum without labels is not listed
at all, and the registry does not know its name. A run declares the captured
enums of the selected schemas that have a label, each at the first entry with a
label, and a column of a declared enum is never reported to be of an unknown one.
-/

namespace TableTypes

namespace CapturedEnum

/-- The enum has a label: one is listed, or the literal is neither blank nor an
empty pair of braces. -/
def hasLabel (enumeration : CapturedEnum) : Bool :=
  !enumeration.values.isEmpty
    || enumeration.literal.any fun literal =>
      Unicode.trim literal.toList ∉ [[], ['\x7b', '\x7d']]

/-- An enum is listed when it has a label. -/
theorem isEmpty_rows (enumeration : CapturedEnum) :
    enumeration.rows.isEmpty = !enumeration.hasLabel := by
  obtain ⟨_, name, values, literal⟩ := enumeration
  cases literal with
  | none => simp [rows, hasLabel]
  | some literal =>
      have unlabelled := ArrayLiteral.labels_eq_nil_iff literal
      rw [Bool.eq_iff_iff]
      simp [rows, hasLabel, EnumRow.ofLiteral, unlabelled]

/-- The rows of an enum carry its name. -/
theorem enumName_of_mem_rows
    {enumeration : CapturedEnum}
    {row : EnumRow}
    (member : row ∈ enumeration.rows) :
    row.enumName = enumeration.name := by
  rw [rows, List.mem_append] at member
  rcases member with listed | inLiteral
  · obtain ⟨_, _, rfl⟩ := List.mem_map.mp listed
    rfl
  · cases given : enumeration.literal with
    | none =>
        rw [given] at inLiteral
        cases inLiteral
    | some literal =>
        rw [given] at inLiteral
        obtain ⟨_, _, rfl⟩ := List.mem_map.mp inLiteral
        rfl

end CapturedEnum

namespace Snapshot

/-- The captured enums of the given schemas that have a label. -/
def labelledEnumsIn
    (snapshot : Snapshot)
    (schemas : NameSet) : List CapturedEnum :=
  (snapshot.enumsIn schemas).filter CapturedEnum.hasLabel

/-- The names that are listed are those of the enums with labels, in order. -/
theorem firstsBy_enumName_enumRows (snapshot : Snapshot) (schemas : NameSet) :
    firstsBy id ((snapshot.enumRows schemas).map EnumRow.enumName) =
      firstsBy id ((snapshot.labelledEnumsIn schemas).map
        CapturedEnum.name) := by
  have oneName (enumeration : CapturedEnum) :
      ∀ name ∈ enumeration.rows.map EnumRow.enumName,
        name = enumeration.name := by
    intro name member
    obtain ⟨row, listed, rfl⟩ := List.mem_map.mp member
    exact CapturedEnum.enumName_of_mem_rows listed
  rw [enumRows_eq_flatMap, List.map_flatMap,
    firstsBy_id_flatMap _ _ CapturedEnum.name oneName, labelledEnumsIn]
  simp only [List.isEmpty_map, CapturedEnum.isEmpty_rows, Bool.not_not]

end Snapshot

namespace Settings

/-- No error names a declared enum as unknown, and an error that names an unknown
enum is about a remaining column of its table that refers to this enum. -/
theorem exists_column_of_unknownEnum
    {settings : Settings}
    {rows : List EnumRow}
    {inputs : List ReportedTable}
    {error : ResolutionError}
    {name : String}
    (reported : error ∈ (settings.generate rows inputs).errors)
    (cause : error.cause = .unknownEnum name) :
    name ∉ (settings.generate rows inputs).enums.map EnumDecl.reportedName ∧
      ∃ input ∈ inputs, ∃ column ∈ Column.keepFirst input.columns,
        error.location = (column.table, column.name) ∧
          name = column.enumName.getD column.typeText := by
  obtain ⟨input, given, before, column, after, remaining, fails⟩ :=
    exists_outcome_of_mem_errors reported
  obtain ⟨refers, unregistered⟩ :=
    unknownEnum_of_outcome settings _ before column fails cause
  have remains : column ∈ Column.keepFirst input.columns := by
    rw [remaining]
    exact List.mem_append_right before List.mem_cons_self
  refine ⟨?_, input, given, column, remains, location_of_outcome fails,
    refers⟩
  rw [map_reportedName_enums_generate, mem_firstsBy_id]
  exact (EnumRegistry.find?_ofRows_eq_none_iff rows name).mp unregistered

/-- An error about an unknown enum at the place of a remaining column names the
enum that this column refers to. -/
theorem unknownEnum_of_remaining_column
    {settings : Settings}
    {snapshot : Snapshot}
    {rows : List EnumRow}
    {error : ResolutionError}
    {missing table : String}
    {columns : List Column}
    {column : Column}
    (reported : error ∈
      (settings.generate rows (settings.snapshotInputs snapshot)).errors)
    (cause : error.cause = .unknownEnum missing)
    (answered : snapshot.columns table = .ok columns)
    (remains : column ∈ Column.keepFirst columns)
    (located : error.location = (table, column.name)) :
    missing = column.enumName.getD column.typeText := by
  obtain ⟨_, input, given, failed, kept, sameLocation, refers⟩ :=
    exists_column_of_unknownEnum reported cause
  obtain ⟨name, chosen, rfl⟩ := List.mem_map.mp given
  have listed := ((settings.mem_chosenTables _ name).mp chosen).1
  have stamped : failed.table = name :=
    Snapshot.table_of_mem_columnsNamed ((firstsBy_sublist _ _).subset kept)
  rw [located, stamped, Prod.mk.injEq] at sameLocation
  obtain ⟨rfl, sameName⟩ := sameLocation
  rw [Snapshot.columns_of_mem_tableNames listed, Except.ok.injEq] at answered
  subst answered
  -- Only one column of a name remains, so it is the one that failed.
  have sameColumn : column = failed :=
    List.inj_on_of_nodup_map
      (List.pairwise_map.mpr (firstsBy_pairwise Column.name _))
      remains kept sameName
  rw [sameColumn, refers]

/-- A run against a snapshot declares the enums of the selected schemas that have
a label, each once and in the order of their first entries with a label. A
remaining column of a user-defined type whose enum is declared is not reported to
be of an unknown enum. -/
theorem run_declares_labelled_enums
    (settings : Settings)
    (snapshot : Snapshot)
    (report : Report)
    (reported : settings.run snapshot.toSource = .ok report) :
    let declared := report.enums.map EnumDecl.reportedName
    declared = firstOccurrences id
        ((snapshot.labelledEnumsIn settings.schemas).map CapturedEnum.name) ∧
      declared.Nodup ∧
      ∀ table columns row name,
        snapshot.columns table = .ok columns ->
        CatalogueRow.toColumn table row ∈ Column.keepFirst columns ->
        Column.sameText row.dataType Column.enumTypeText = true ->
        row.underlyingType = some name ->
        name ∈ declared ->
        ∀ error ∈ report.errors, error.location = (table, row.name) ->
          ∀ missing, error.cause ≠ .unknownEnum missing := by
  intro declared
  obtain rfl := eq_generate_of_run_toSource reported
  refine ⟨?_, nodup_enums_generate settings _ _, ?_⟩
  · rw [← firstsBy_eq_firstOccurrences,
      ← Snapshot.firstsBy_enumName_enumRows]
    exact map_reportedName_enums_generate settings _ _
  · intro table columns row name answered remains userDefined underlying known
      error among located missing cause
    have undeclared := (exists_column_of_unknownEnum among cause).1
    have refers :=
      unknownEnum_of_remaining_column among cause answered remains located
    rw [CatalogueRow.toColumn, Column.ofCatalogue, if_pos userDefined,
      underlying, Option.getD_some] at refers
    exact undeclared (refers ▸ known)

/-- An enum of the selected schema is declared although its first entry has no
label, behind the enums that have one before. The enum of another schema is
unknown. -/
theorem labelled_mood_declared :
    let settings : Settings := {}
    let mood : CatalogueRow := {
      name := "mood"
      dataType := "USER-DEFINED"
      underlyingType := some "mood"
    }
    let level : CatalogueRow := {
      name := "level"
      dataType := "USER-DEFINED"
      underlyingType := some "level"
    }
    let snapshot : Snapshot := {
      tables := [{ name := "users", columns := [mood, level] }]
      enums := [
        { name := "mood", literal := some " \x7b\x7d " },
        { name := "role", literal := some "\x7buser,admin\x7d" },
        { schema := "audit", name := "level", values := ["low"] },
        { name := "mood", values := ["happy"] },
        { name := "role", values := ["guest"] }
      ]
    }
    ∃ report,
      settings.run snapshot.toSource = .ok report ∧
      report.enums.map EnumDecl.reportedName = ["role", "mood"] ∧
      report.errors = [⟨"users", "level", .unknownEnum "level"⟩] ∧
      ∀ error ∈ report.errors, error.location = ("users", "mood") ->
        ∀ missing, error.cause ≠ .unknownEnum missing := by
  intro settings mood level snapshot
  let report := settings.generate
    (snapshot.enumRows settings.schemas)
    (settings.snapshotInputs snapshot)
  have valid :
      settings.validate (snapshot.tableNames settings.schemas) = .ok () := by
    decide +kernel
  have reported : settings.run snapshot.toSource = .ok report := by
    rw [run_toSource, valid]
  have declared : report.enums.map EnumDecl.reportedName = ["role", "mood"] := by
    decide +kernel
  have columns : snapshot.columns "users" =
      .ok [mood.toColumn "users", level.toColumn "users"] := by
    decide +kernel
  have remains : mood.toColumn "users" ∈
      Column.keepFirst [mood.toColumn "users", level.toColumn "users"] := by
    decide +kernel
  have userDefined :
      Column.sameText mood.dataType Column.enumTypeText = true := by
    decide +kernel
  obtain ⟨_, _, neverUnknown⟩ :=
    run_declares_labelled_enums settings snapshot report reported
  refine ⟨report, reported, declared, by decide +kernel, ?_⟩
  refine neverUnknown "users" _ mood "mood" columns remains userDefined rfl ?_
  rw [declared]
  decide

/-- An enum of the selected schema that has no label is not declared, and a column
of this enum is reported to be of an unknown one. -/
theorem unlabelled_mood_unknown :
    let settings : Settings := {}
    let mood : CapturedEnum := { name := "mood", values := [] }
    let column : CatalogueRow := {
      name := "mood"
      dataType := "USER-DEFINED"
      underlyingType := some "mood"
    }
    let snapshot : Snapshot := {
      tables := [{ name := "users", columns := [column] }]
      enums := [mood]
    }
    ∃ report,
      settings.run snapshot.toSource = .ok report ∧
      mood ∈ snapshot.enumsIn settings.schemas ∧
      report.enums.map EnumDecl.reportedName ≠
        firstOccurrences id
          ((snapshot.enumsIn settings.schemas).map CapturedEnum.name) ∧
      ⟨"users", "mood", .unknownEnum "mood"⟩ ∈ report.errors := by
  intro settings mood column snapshot
  let report := settings.generate
    (snapshot.enumRows settings.schemas)
    (settings.snapshotInputs snapshot)
  have valid :
      settings.validate (snapshot.tableNames settings.schemas) = .ok () := by
    decide +kernel
  have reported : settings.run snapshot.toSource = .ok report := by
    rw [run_toSource, valid]
  refine ⟨report, reported, ?_, ?_, ?_⟩
  · decide +kernel
  · decide +kernel
  · decide +kernel

end Settings
end TableTypes
