import TableTypes.Proofs.Accounting

/-!
# Schemas that are not read

A run lists the tables and the enums of the selected schemas only, so nothing
that is captured in another schema takes part by itself. Columns are found by
the name of their table alone: a table of another schema adds its columns to a
selected table of the same name, and that is all it can do.
-/

namespace TableTypes

namespace Snapshot

/-- The tables that are captured in the given schemas. -/
def tablesIn (snapshot : Snapshot) (schemas : NameSet) : List CapturedTable :=
  snapshot.tables.filter fun table => table.schema ∈ schemas

/-- The enums that are captured in the given schemas. -/
def enumsIn (snapshot : Snapshot) (schemas : NameSet) : List CapturedEnum :=
  snapshot.enums.filter fun enumeration => enumeration.schema ∈ schemas

/-- The names of tables are listed from the tables of the given schemas. -/
theorem tableNames_eq_map (snapshot : Snapshot) (schemas : NameSet) :
    snapshot.tableNames schemas =
      (snapshot.tablesIn schemas).map CapturedTable.name := rfl

/-- The rows of enums are listed from the enums of the given schemas. -/
theorem enumRows_eq_flatMap (snapshot : Snapshot) (schemas : NameSet) :
    snapshot.enumRows schemas =
      (snapshot.enumsIn schemas).flatMap CapturedEnum.rows := rfl

end Snapshot

namespace Settings

/-- A generation reads no more of the columns of a table than their first
occurrences. -/
theorem generate_eq_of_same_columns
    (settings : Settings)
    (rows : List EnumRow)
    (names : List String)
    (left right : String -> List Column)
    (same : ∀ name ∈ names,
      Column.keepFirst (left name) = Column.keepFirst (right name)) :
    settings.generate rows (names.map fun name => ⟨name, left name⟩) =
      settings.generate rows (names.map fun name => ⟨name, right name⟩) := by
  have declared :
      (names.map fun name => (⟨name, left name⟩ : ReportedTable)).map
          (settings.declareTable (EnumRegistry.ofRows rows)) =
        (names.map fun name => (⟨name, right name⟩ : ReportedTable)).map
          (settings.declareTable (EnumRegistry.ofRows rows)) := by
    rw [List.map_map, List.map_map]
    refine List.map_congr_left fun name member => ?_
    simp only [Function.comp_apply, declareTable, same name member]
  simp only [generate, declared]

/-- Two snapshots that agree on the selected schemas give the same result, the
same error or the same report, when they also agree on the first occurrences of
the columns of each admitted table. -/
theorem run_eq_of_same_selection
    (settings : Settings)
    (left right : Snapshot)
    (sameTables : left.tablesIn settings.schemas =
      right.tablesIn settings.schemas)
    (sameEnums : left.enumsIn settings.schemas =
      right.enumsIn settings.schemas)
    (sameColumns : ∀ table ∈ left.tablesIn settings.schemas,
      settings.admits table.name = true ->
        (left.columns table.name).map Column.keepFirst =
          (right.columns table.name).map Column.keepFirst) :
    settings.run left.toSource = settings.run right.toSource := by
  have sameNames : left.tableNames settings.schemas =
      right.tableNames settings.schemas := by
    rw [Snapshot.tableNames_eq_map, sameTables, ← Snapshot.tableNames_eq_map]
  have sameRows : left.enumRows settings.schemas =
      right.enumRows settings.schemas := by
    rw [Snapshot.enumRows_eq_flatMap, sameEnums,
      ← Snapshot.enumRows_eq_flatMap]
  have sameFirst :
      ∀ name ∈ settings.chosenTables (left.tableNames settings.schemas),
        Column.keepFirst (left.columnsNamed name) =
          Column.keepFirst (right.columnsNamed name) := by
    intro name chosen
    obtain ⟨listed, admitted⟩ := (settings.mem_chosenTables _ name).mp chosen
    obtain ⟨table, selected, rfl⟩ := List.mem_map.mp listed
    have agree := sameColumns table selected admitted
    rw [Snapshot.columns_of_mem_tableNames listed,
      Snapshot.columns_of_mem_tableNames (sameNames ▸ listed)] at agree
    exact Except.ok.inj agree
  rw [run_toSource, run_toSource, snapshotInputs, snapshotInputs, ← sameNames,
    ← sameRows, generate_eq_of_same_columns settings _ _ _ _ sameFirst]

/-- A table of an unread schema that only repeats a column, and an unread enum,
change nothing. -/
theorem repeated_users_run_equal :
    let settings : Settings := {}
    let users : CapturedTable := {
      name := "users"
      columns := [{ name := "id", dataType := "integer" }]
    }
    let audited : CapturedTable := {
      schema := "audit"
      name := "users"
      columns := [{ name := "id", dataType := "hstore" }]
    }
    let level : CapturedEnum := {
      schema := "audit"
      name := "level"
      values := ["low"]
    }
    let left : Snapshot := { tables := [users] }
    let right : Snapshot := { tables := [users, audited], enums := [level] }
    left.tablesIn settings.schemas = right.tablesIn settings.schemas ∧
      left.enumsIn settings.schemas = right.enumsIn settings.schemas ∧
      settings.run left.toSource = settings.run right.toSource := by
  intro settings users audited level left right
  have sameTables : left.tablesIn settings.schemas =
      right.tablesIn settings.schemas := by
    decide +kernel
  have sameEnums : left.enumsIn settings.schemas =
      right.enumsIn settings.schemas := by
    decide +kernel
  refine ⟨sameTables, sameEnums,
    run_eq_of_same_selection settings left right sameTables sameEnums ?_⟩
  intro table selected _
  have onlyUsers : left.tablesIn settings.schemas = [users] := by
    decide +kernel
  rw [onlyUsers, List.mem_singleton] at selected
  subst selected
  rfl

/-- A table of an unread schema adds its columns to the selected table of its
name. -/
theorem audited_users_run_differs :
    let settings : Settings := {}
    let users : CapturedTable := {
      name := "users"
      columns := [{ name := "id", dataType := "integer" }]
    }
    let audited : CapturedTable := {
      schema := "audit"
      name := "users"
      columns := [{ name := "email", dataType := "text" }]
    }
    let left : Snapshot := { tables := [users] }
    let right : Snapshot := { tables := [users, audited] }
    left.tablesIn settings.schemas = right.tablesIn settings.schemas ∧
      left.enumsIn settings.schemas = right.enumsIn settings.schemas ∧
      settings.run left.toSource ≠ settings.run right.toSource := by
  intro settings users audited left right
  have onlyId : (settings.run left.toSource).map Report.emittedColumns =
      .ok [("users", "id")] := by
    decide +kernel
  have both : (settings.run right.toSource).map Report.emittedColumns =
      .ok [("users", "id"), ("users", "email")] := by
    decide +kernel
  refine ⟨by decide +kernel, by decide +kernel, fun same => ?_⟩
  rw [same, both] at onlyId
  exact absurd onlyId (by decide +kernel)

end Settings
end TableTypes
