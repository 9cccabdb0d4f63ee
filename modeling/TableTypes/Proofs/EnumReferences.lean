import Mathlib.Data.List.Nodup
import TableTypes.Proofs.Generation
import TableTypes.Proofs.Script.EnumReference
import TableTypes.Proofs.Script.UnitReading

/-!
# Enum references are declared

The type of a field names an enum as it was reported, and the enum and the
reference are cased apart from each other. Every enum that a field refers to is
declared once, and the text of the field refers to it by the identifier of its
declaration.
-/

namespace TableTypes

namespace Column

/-- An enum that occurs in the type of a kind is registered. -/
theorem registered_of_typeOfKind
    {registry : EnumRegistry}
    {minLength : Option UInt32}
    {column : Column}
    {kind : ColumnKind}
    {type : FieldType}
    {name : String}
    (typed : column.typeOfKind registry minLength kind = .ok type)
    (refers : name ∈ type.enumNames) :
    ∃ enumeration ∈ registry.enums, enumeration.name = name := by
  cases kind with
  | enumeration =>
      obtain ⟨enumeration, found, rfl⟩ :=
        (resolveEnum_eq_ok_iff registry column type).mp typed
      exact ⟨enumeration, List.mem_of_find?_eq_some found,
        (List.mem_singleton.mp refers).symm⟩
  | _ =>
      cases typed
      cases refers

/-- An enum that occurs in the type of a column is registered. -/
theorem registered_of_resolve
    {registry : EnumRegistry}
    {minLength : Option UInt32}
    {column : Column}
    {type : FieldType}
    {name : String}
    (resolved : column.resolve registry minLength = .ok type)
    (refers : name ∈ type.enumNames) :
    ∃ enumeration ∈ registry.enums, enumeration.name = name := by
  obtain ⟨kind, present, _, typed, rfl⟩ :=
    (resolve_eq_ok_iff registry minLength column type).mp resolved
  refine registered_of_typeOfKind typed ?_
  cases nullable : column.isNullable with
  | true => simpa [nullable] using refers
  | false => simpa [nullable] using refers

end Column

namespace Settings

/-- The type of a declared field is the type of a column. -/
theorem exists_resolve_of_mem_fields
    {settings : Settings}
    {rows : List EnumRow}
    {inputs : List ReportedTable}
    {table : TableDecl}
    {field : FieldDecl}
    (declared : table ∈ (settings.generate rows inputs).tables)
    (holds : field ∈ table.fields) :
    ∃ column : Column,
      column.resolve (EnumRegistry.ofRows rows) settings.textMinLength =
        .ok field.type := by
  rw [tables_generate] at declared
  obtain ⟨input, _, rfl⟩ := List.mem_map.mp declared
  have succeeds := (mem_valuesOf_iff _ field).mp holds
  obtain ⟨position, _, judged⟩ := List.mem_mapIdx.mp succeeds
  obtain ⟨_, type, resolved, rfl⟩ :=
    (outcome_eq_ok_iff settings (EnumRegistry.ofRows rows) _ _ field).mp judged
  exact ⟨_, resolved⟩

open Script

/-- The enums of an output are read back from it. -/
theorem readEnums_generate
    (settings : Settings)
    (rows : List EnumRow)
    (inputs : List ReportedTable) :
    readEnums (settings.generate rows inputs).output =
      (settings.generate rows inputs).enums.map EnumStatement.ofDecl :=
  readEnums_unitText settings.casing _ _

/-- The objects of an output are read back from it. -/
theorem readObjects_generate
    (settings : Settings)
    (rows : List EnumRow)
    (inputs : List ReportedTable) :
    readObjects (settings.generate rows inputs).output =
      (settings.generate rows inputs).tables.map
        (ObjectStatement.ofDecl settings.casing) :=
  readObjects_unitText settings.casing _ _

/-- An enum that occurs in the type of a field is declared once in the report,
and the text of the field in the output refers to the identifier under which the
output declares this enum. -/
theorem output_declares_referenced_enums
    (settings : Settings)
    (rows : List EnumRow)
    (inputs : List ReportedTable)
    (tablePosition fieldPosition : Nat)
    (table : TableDecl)
    (field : FieldDecl)
    (name : String)
    (declared :
      (settings.generate rows inputs).tables[tablePosition]? = some table)
    (holds : table.fields[fieldPosition]? = some field)
    (refers : name ∈ field.type.enumNames) :
    let report := settings.generate rows inputs
    (report.enums.map EnumDecl.reportedName).count name = 1 ∧
      ∃ (enumPosition : Nat) (entry : EnumDecl) (statement : EnumStatement)
        (object : ObjectStatement),
        report.enums[enumPosition]? = some entry ∧
        entry.reportedName = name ∧
        (readEnums report.output)[enumPosition]? = some statement ∧
        (readObjects report.output)[tablePosition]? = some object ∧
        object.fields[fieldPosition]? =
          some ⟨field.emittedName,
            typeExpression settings.casing field.type⟩ ∧
        enumReferences (typeExpression settings.casing field.type).toList =
          [statement.name] := by
  intro report
  obtain ⟨column, resolved⟩ := exists_resolve_of_mem_fields
    (List.mem_of_getElem? declared) (List.mem_of_getElem? holds)
  obtain ⟨enumeration, registered, rfl⟩ :=
    Column.registered_of_resolve resolved refers
  let entry := EnumDecl.ofEnumeration settings.casing enumeration
  have member : entry ∈ report.enums := List.mem_map_of_mem registered
  obtain ⟨enumPosition, place⟩ := List.getElem?_of_mem member
  have once : (report.enums.map EnumDecl.reportedName).count
      enumeration.name = 1 :=
    List.count_eq_one_of_mem (nodup_enums_generate settings rows inputs)
      (List.mem_map_of_mem member)
  have enumRead : (readEnums report.output)[enumPosition]? =
      some (EnumStatement.ofDecl entry) := by
    rw [readEnums_generate, List.getElem?_map, place, Option.map_some]
  have objectRead : (readObjects report.output)[tablePosition]? =
      some (ObjectStatement.ofDecl settings.casing table) := by
    rw [readObjects_generate, List.getElem?_map, declared, Option.map_some]
  have fieldRead :
      (ObjectStatement.ofDecl settings.casing table).fields[fieldPosition]? =
        some ⟨field.emittedName,
          typeExpression settings.casing field.type⟩ := by
    rw [ObjectStatement.ofDecl, List.getElem?_map, holds, Option.map_some]
  have reference : enumReferences
      ((typeExpression settings.casing field.type).toList ++ []) =
        [enumIdentifier settings.casing enumeration.name] :=
    enumReferences_typeExpression refers [] List.not_mem_nil
  rw [List.append_nil] at reference
  exact ⟨once, enumPosition, entry, _, _, place, rfl, enumRead, objectRead,
    fieldRead, reference⟩

/-- An enum whose name is a reserved word in camel case is declared under another
identifier, and a column that may be absent refers to it by this identifier. -/
theorem new_reference_declared :
    let settings : Settings := { casing := .camel }
    let rows : List EnumRow :=
      [⟨"order status", "open"⟩, ⟨"New", "yes"⟩, ⟨"order status", "closed"⟩]
    let inputs : List ReportedTable := [
      ⟨"orders", [
        { table := "orders", name := "id", typeText := "integer" },
        { table := "orders", name := "is_new", typeText := "USER-DEFINED",
          isNullable := true, enumName := some "New" }
      ]⟩
    ]
    let report := settings.generate rows inputs
    ∃ table field,
      report.tables[0]? = some table ∧
      table.fields[1]? = some field ∧
      "New" ∈ field.type.enumNames ∧
      typeExpression settings.casing field.type =
        "Type.Optional(Type.Enum(new_))" ∧
      (report.enums.map EnumDecl.reportedName).count "New" = 1 ∧
      ∃ statement ∈ readEnums report.output, statement.name = "new_" := by
  intro settings rows inputs report
  let field : FieldDecl := ⟨"is_new", "isNew", .optional (.enumRef "New")⟩
  let table : TableDecl :=
    ⟨"orders", "orders", "ordersType", [⟨"id", "id", .number {}⟩, field]⟩
  have declared : report.tables[0]? = some table := by
    decide +kernel
  have refers : "New" ∈ field.type.enumNames := List.mem_singleton.mpr rfl
  have text : typeExpression settings.casing field.type =
      "Type.Optional(Type.Enum(new_))" := by
    decide +kernel
  have read : enumReferences "Type.Optional(Type.Enum(new_))".toList =
      ["new_"] := by
    decide +kernel
  obtain ⟨once, _, _, statement, _, _, _, enumRead, _, _, reference⟩ :=
    output_declares_referenced_enums settings rows inputs 0 1 table field "New"
      declared rfl refers
  rw [text, read] at reference
  exact ⟨table, field, declared, rfl, refers, text, once, statement,
    List.mem_of_getElem? enumRead, (List.cons.inj reference).1.symm⟩

end Settings
end TableTypes
