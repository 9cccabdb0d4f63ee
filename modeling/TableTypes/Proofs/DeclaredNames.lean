import Mathlib.Data.List.Nodup
import TableTypes.Proofs.Enum.Registry
import TableTypes.Proofs.Generation
import TableTypes.Proofs.Script.UnitReading

/-!
# Names declared by a unit

Enums, objects and static types are declared at the top of one module. The names
are read off the lines of the text, and they repeat exactly when two reported
names are declared under one identifier.
-/

namespace TableTypes
namespace Script

namespace Line

/-- The name that a line declares as a value. -/
def valueName? : Line -> Option String
  | .enumStart name _ => some name
  | .objectStart name _ => some name
  | _ => none

/-- The name that a line declares as a type. An enum is a value and a type. -/
def typeName? : Line -> Option String
  | .enumStart name _ => some name
  | .typeAlias name _ => some name
  | _ => none

end Line

/-- The names that a text declares as values, in order. -/
def valueNames (text : String) : List String :=
  (readLines text).filterMap Line.valueName?

/-- The names that a text declares as types, in order. -/
def typeNames (text : String) : List String :=
  (readLines text).filterMap Line.typeName?

/-- The lines of a statement that declare a name at the top of the module. -/
def Statement.declaringLines : Statement -> List Line
  | .enumeration statement =>
      [.enumStart statement.name statement.members.isEmpty]
  | .object statement =>
      [
        .objectStart statement.name statement.fields.isEmpty,
        .typeAlias statement.typeName statement.name
      ]

section Choice

variable {choose : Line -> Option String}
variable (passesOther : ∀ text, choose (.other text) = none)
include passesOther

/-- Nothing is chosen at the end of a block. -/
theorem filterMap_closing (isEmpty : Bool) (text : List Char) :
    (closing isEmpty text).filterMap choose = [] := by
  cases isEmpty with
  | false => exact List.filterMap_cons_none (passesOther text)
  | true => rfl

variable (passesMember : ∀ member, choose (.member member) = none)
variable (passesField : ∀ field, choose (.field field) = none)
include passesMember passesField

/-- A choice that passes over entries chooses from the lines that declare. -/
theorem filterMap_lines (statement : Statement) :
    statement.lines.filterMap choose =
      statement.declaringLines.filterMap choose := by
  cases statement with
  | enumeration statement =>
      have noMember :
          (statement.members.map Line.member).filterMap choose = [] := by
        simp [List.filterMap_map, passesMember]
      unfold Statement.lines EnumStatement.lines Statement.declaringLines
      rw [List.filterMap_cons, List.filterMap_append, noMember,
        filterMap_closing passesOther]
      rfl
  | object statement =>
      have noField :
          (statement.fields.map Line.field).filterMap choose = [] := by
        simp [List.filterMap_map, passesField]
      have blank := List.filterMap_cons_none
        (l := [Line.typeAlias statement.typeName statement.name])
        (passesOther [])
      unfold Statement.lines ObjectStatement.lines Statement.declaringLines
      rw [List.filterMap_cons, List.filterMap_append, List.filterMap_append,
        noField, filterMap_closing passesOther, blank, List.filterMap_cons]
      rfl

/-- What is chosen in the text of a unit is chosen from its statements in
turn. -/
theorem filterMap_readLines_unitText
    (casing : Casing)
    (enums : List EnumDecl)
    (tables : List TableDecl) :
    (readLines (unitText casing enums tables)).filterMap choose =
      (unitStatements casing enums tables).flatMap fun statement =>
        statement.declaringLines.filterMap choose := by
  have lines (statement : Statement) :
      (Line.other [] :: statement.lines).filterMap choose =
        statement.declaringLines.filterMap choose := by
    rw [List.filterMap_cons_none (passesOther []),
      filterMap_lines passesOther passesMember passesField]
  have imports : importLines.filterMap choose = [] := by
    simp [importLines, passesOther]
  have last : [Line.other []].filterMap choose = [] :=
    List.filterMap_cons_none (passesOther [])
  rw [readLines_unitText, unitLines, List.filterMap_append,
    List.filterMap_append, imports, last, List.filterMap_flatMap,
    List.nil_append, List.append_nil]
  simp only [lines]

end Choice

/-- The values of a unit are its enums and its objects. -/
theorem valueNames_unitText
    (casing : Casing)
    (enums : List EnumDecl)
    (tables : List TableDecl) :
    valueNames (unitText casing enums tables) =
      enums.map (fun declaration => declaredName declaration.emittedName)
        ++ tables.map fun declaration =>
          declaredName declaration.emittedName := by
  rw [valueNames,
    filterMap_readLines_unitText (fun _ => rfl) (fun _ => rfl) (fun _ => rfl),
    unitStatements, List.flatMap_append, List.flatMap_map, List.flatMap_map,
    List.map_eq_flatMap, List.map_eq_flatMap]
  rfl

/-- The types of a unit are its enums and the static types of its objects. -/
theorem typeNames_unitText
    (casing : Casing)
    (enums : List EnumDecl)
    (tables : List TableDecl) :
    typeNames (unitText casing enums tables) =
      enums.map (fun declaration => declaredName declaration.emittedName)
        ++ tables.map fun declaration => declaredName declaration.typeName := by
  rw [typeNames,
    filterMap_readLines_unitText (fun _ => rfl) (fun _ => rfl) (fun _ => rfl),
    unitStatements, List.flatMap_append, List.flatMap_map, List.flatMap_map,
    List.map_eq_flatMap, List.map_eq_flatMap]
  rfl

end Script

namespace Settings

open Script

/-- The identifier under which an enum or a table is declared. -/
def identifier (settings : Settings) (name : String) : String :=
  declaredName (settings.casing.apply name)

/-- The identifier under which the static type of a table is declared. -/
def typeIdentifier (settings : Settings) (table : String) : String :=
  declaredName
    (TableDecl.typeNameOf settings.casing (settings.casing.apply table))

/-- The values that an output declares are the enums of the rows, each at its
first row, and the tables. -/
theorem valueNames_generate
    (settings : Settings)
    (rows : List EnumRow)
    (inputs : List ReportedTable) :
    valueNames (settings.generate rows inputs).output =
      (firstsBy id (rows.map EnumRow.enumName)).map settings.identifier
        ++ (inputs.map ReportedTable.name).map settings.identifier := by
  rw [output_generate, valueNames_unitText, tables_generate, List.map_map,
    List.map_map, ← EnumRegistry.map_name_ofRows, List.map_map, List.map_map]
  rfl

/-- The types that an output declares are the enums of the rows, each at its
first row, and the static types of the tables. -/
theorem typeNames_generate
    (settings : Settings)
    (rows : List EnumRow)
    (inputs : List ReportedTable) :
    typeNames (settings.generate rows inputs).output =
      (firstsBy id (rows.map EnumRow.enumName)).map settings.identifier
        ++ (inputs.map ReportedTable.name).map settings.typeIdentifier := by
  rw [output_generate, typeNames_unitText, tables_generate, List.map_map,
    List.map_map, ← EnumRegistry.map_name_ofRows, List.map_map, List.map_map]
  rfl

/-- Two lists of identifiers declare each name once exactly when names of one
list that differ get different identifiers and no identifier is on both
lists. -/
theorem nodup_declared_iff
    (ofEnum ofTable : String -> String)
    (enumNames tableNames : List String)
    (distinct : tableNames.Nodup) :
    ((firstsBy id enumNames).map ofEnum ++ tableNames.map ofTable).Nodup ↔
      (∀ first ∈ enumNames, ∀ second ∈ enumNames,
        ofEnum first = ofEnum second -> first = second) ∧
      (∀ first ∈ tableNames, ∀ second ∈ tableNames,
        ofTable first = ofTable second -> first = second) ∧
      ∀ enum ∈ enumNames, ∀ table ∈ tableNames,
        ofEnum enum ≠ ofTable table := by
  rw [List.nodup_append,
    List.nodup_map_iff_inj_on (nodup_firstsBy_id enumNames),
    List.nodup_map_iff_inj_on distinct]
  simp only [mem_firstsBy_id, List.mem_map, forall_exists_index, and_imp,
    forall_apply_eq_imp_iff₂]

/-- An output of differently named tables declares each value once, and each
type once, exactly when no two of the declared names share their identifier. A
table stands for two names, that of its object and that of its static type. -/
theorem output_declares_once_iff
    (settings : Settings)
    (rows : List EnumRow)
    (inputs : List ReportedTable)
    (distinct : (inputs.map ReportedTable.name).Nodup) :
    let output := (settings.generate rows inputs).output
    let enumNames := rows.map EnumRow.enumName
    let tableNames := inputs.map ReportedTable.name
    ((valueNames output).Nodup ↔
      (∀ first ∈ enumNames, ∀ second ∈ enumNames,
        settings.identifier first = settings.identifier second ->
          first = second) ∧
      (∀ first ∈ tableNames, ∀ second ∈ tableNames,
        settings.identifier first = settings.identifier second ->
          first = second) ∧
      ∀ enum ∈ enumNames, ∀ table ∈ tableNames,
        settings.identifier enum ≠ settings.identifier table) ∧
    ((typeNames output).Nodup ↔
      (∀ first ∈ enumNames, ∀ second ∈ enumNames,
        settings.identifier first = settings.identifier second ->
          first = second) ∧
      (∀ first ∈ tableNames, ∀ second ∈ tableNames,
        settings.typeIdentifier first = settings.typeIdentifier second ->
          first = second) ∧
      ∀ enum ∈ enumNames, ∀ table ∈ tableNames,
        settings.identifier enum ≠ settings.typeIdentifier table) := by
  intro output enumNames tableNames
  rw [valueNames_generate, typeNames_generate]
  exact ⟨nodup_declared_iff settings.identifier settings.identifier
      enumNames tableNames distinct,
    nodup_declared_iff settings.identifier settings.typeIdentifier
      enumNames tableNames distinct⟩

/-- Two tables and an enum with identifiers of their own are declared once
each. -/
theorem users_posts_state_declared_once :
    let tables : List ReportedTable := [⟨"users", []⟩, ⟨"posts", []⟩]
    let rows : List EnumRow := [⟨"state", "open"⟩]
    let output := (Settings.generate { casing := .camel } rows tables).output
    (tables.map ReportedTable.name).Nodup ∧
      (valueNames output).Nodup ∧ (typeNames output).Nodup := by
  intro tables rows output
  have distinct : (tables.map ReportedTable.name).Nodup := by
    decide
  have exact :=
    output_declares_once_iff { casing := .camel } rows tables distinct
  refine ⟨distinct, exact.1.mpr ?_, exact.2.mpr ?_⟩
  · decide +kernel
  · decide +kernel

/-- A table that shares its name with one enum, and the name of its static type
with another, is generated without an error, and both names are declared
twice. -/
theorem status_declared_twice :
    let rows : List EnumRow := [⟨"status", "on"⟩, ⟨"statusType", "on"⟩]
    let report := Settings.generate {} rows [⟨"status", []⟩]
    report.errors = [] ∧
      valueNames report.output = ["status", "statusType", "status"] ∧
      typeNames report.output = ["status", "statusType", "statusType"] := by
  intro rows report
  refine ⟨rfl, ?_, ?_⟩
  · rw [valueNames_generate]
    decide +kernel
  · rw [typeNames_generate]
    decide +kernel

/-! ## Plain names -/

/-- A plain name that is emitted as reported is its own identifier. -/
theorem identifier_of_isPlain
    {settings : Settings}
    (verbatim : settings.casing = .verbatim)
    {name : String}
    (plain : IsPlain name) :
    settings.identifier name = name := by
  rw [identifier, verbatim, Casing.apply_verbatim,
    declaredName_of_isPlain plain]

/-- A plain table name that is emitted as reported gives its static type a name
of its own. -/
theorem typeIdentifier_of_isPlain
    {settings : Settings}
    (verbatim : settings.casing = .verbatim)
    {table : String}
    (plain : IsPlain table) :
    settings.typeIdentifier table = table ++ "Type" := by
  rw [typeIdentifier, TableDecl.typeNameOf, verbatim, Casing.apply_verbatim,
    Casing.apply_verbatim, declaredName_of_isPlain (isPlain_append_type plain)]

/-- Among plain names that are emitted as reported, a value repeats only when a
table has the name of an enum, and a type only when an enum has the name of a
static type. -/
theorem plain_output_declares_once_iff
    (settings : Settings)
    (verbatim : settings.casing = .verbatim)
    (rows : List EnumRow)
    (inputs : List ReportedTable)
    (distinct : (inputs.map ReportedTable.name).Nodup)
    (plainEnums : ∀ enum ∈ rows.map EnumRow.enumName, IsPlain enum)
    (plainTables : ∀ table ∈ inputs.map ReportedTable.name, IsPlain table) :
    let output := (settings.generate rows inputs).output
    ((valueNames output).Nodup ↔
      ∀ table ∈ inputs.map ReportedTable.name,
        table ∉ rows.map EnumRow.enumName) ∧
    ((typeNames output).Nodup ↔
      ∀ table ∈ inputs.map ReportedTable.name,
        table ++ "Type" ∉ rows.map EnumRow.enumName) := by
  intro output
  -- On plain names the identifiers are the names, so the lists lose their maps.
  have enums :
      (firstsBy id (rows.map EnumRow.enumName)).map settings.identifier =
        firstsBy id (rows.map EnumRow.enumName) := by
    refine (List.map_congr_left fun enum kept => ?_).trans (List.map_id _)
    exact identifier_of_isPlain verbatim
      (plainEnums enum ((firstsBy_sublist id _).subset kept))
  have tables : (inputs.map ReportedTable.name).map settings.identifier =
      inputs.map ReportedTable.name := by
    refine (List.map_congr_left fun table member => ?_).trans (List.map_id _)
    exact identifier_of_isPlain verbatim (plainTables table member)
  have types : (inputs.map ReportedTable.name).map settings.typeIdentifier =
      (inputs.map ReportedTable.name).map (· ++ "Type") :=
    List.map_congr_left fun table member =>
      typeIdentifier_of_isPlain verbatim (plainTables table member)
  have distinctTypes :
      ((inputs.map ReportedTable.name).map (· ++ "Type")).Nodup :=
    distinct.map fun first second equal =>
      (String.append_left_inj "Type").mp equal
  have distinctEnums := nodup_firstsBy_id (rows.map EnumRow.enumName)
  rw [valueNames_generate, typeNames_generate, enums, tables, types,
    List.nodup_append', List.nodup_append', List.disjoint_right,
    List.disjoint_right]
  simp only [distinctEnums, distinct, distinctTypes, true_and, mem_firstsBy_id,
    List.forall_mem_map]

end Settings
end TableTypes
