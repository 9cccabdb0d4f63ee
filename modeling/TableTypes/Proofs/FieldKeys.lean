import Mathlib.Data.List.Nodup
import TableTypes.Proofs.EnumReferences
import TableTypes.Proofs.FieldColumns

/-!
# Keys of an object

Every field of an object stands on a line of its own behind its key, which is bare or
quoted. A key can be read back, so different names have different keys, and the keys of
one object are distinct because a column becomes a field only when its emitted name is
not taken.
-/

namespace TableTypes
namespace Script

/-- Names with the same key are the same name: the key reads as the name, whether it is
bare or quoted. -/
theorem key_injective : Function.Injective key := by
  intro first second same
  have firstRead := readKey_key_append first ':' (by decide) []
  have secondRead := readKey_key_append second ':' (by decide) []
  rw [same, secondRead, Option.some.injEq, Prod.mk.injEq] at firstRead
  exact (String.toList_inj.mp firstRead.1).symm

/-! ## Keys as they are written -/

/-- The key that a line writes in front of the type of a field, with its quotes. -/
def writtenKey? (line : List Char) : Option String :=
  match readLine line with
  | .field _ =>
      (after? indentation.toList line).bind fun entry =>
        (readKey entry).map fun (_, rest) =>
          String.ofList (entry.take (entry.length - rest.length))
  | _ => none

/-- The keys that the lines of a block write, in order. -/
def writtenKeys (block : String) : List String :=
  (block.toList.splitOn '\n').filterMap writtenKey?

/-- The key in front of the type of a field. -/
def Line.key? : Line -> Option String
  | .field written => some (key written.name)
  | _ => none

/-- A line writes the key of its field, and no key when it says anything else. -/
theorem writtenKey?_text {line : Line} (wellFormed : line.WellFormed) :
    writtenKey? line.text = line.key? := by
  rw [writtenKey?, readLine_text wellFormed]
  cases line with
  | field field =>
      let rest := ':' :: ' ' :: (field.type.toList ++ [','])
      let entry := (key field.name).toList ++ rest
      have entryRead : after? indentation.toList (Line.field field).text = some entry :=
        after?_append _ _
      have nameRead : readKey entry = some (field.name.toList, rest) :=
        readKey_key_append field.name ':' (by decide) _
      have written : entry.take (entry.length - rest.length) =
          (key field.name).toList := by
        rw [List.length_append, Nat.add_sub_cancel, List.take_left]
      simp only [entryRead, nameRead, Option.bind_some, Option.map_some, written,
        String.ofList_toList, Line.key?]
  | _ => rfl

/-- The lines of an object have the keys of its fields, in order. -/
theorem filterMap_key?_lines (statement : ObjectStatement) :
    statement.lines.filterMap Line.key? =
      statement.fields.map fun field => key field.name := by
  have inFields (fields : List ObjectField) :
      (fields.map Line.field).filterMap Line.key? =
        fields.map fun field => key field.name := by
    rw [List.filterMap_map]
    exact congrFun List.filterMap_eq_map fields
  have inClosing (isEmpty : Bool) (text : List Char) :
      (closing isEmpty text).filterMap Line.key? = [] := by
    cases isEmpty with
    | false => rfl
    | true => rfl
  rw [ObjectStatement.lines, List.filterMap_cons_none rfl, List.filterMap_append,
    List.filterMap_append, inFields, inClosing, List.nil_append]
  exact List.append_nil _

/-- The block of a table writes the keys of its fields, in order. -/
theorem writtenKeys_print (casing : Casing) (declaration : TableDecl) :
    writtenKeys (ObjectStatement.ofDecl casing declaration).print =
      declaration.fields.map fun field => key field.emittedName := by
  have wellFormed := wellFormed_lines_table casing declaration
  have keysOfLines : ((ObjectStatement.ofDecl casing declaration).lines.map
      Line.text).filterMap writtenKey? =
        (ObjectStatement.ofDecl casing declaration).lines.filterMap Line.key? := by
    rw [List.filterMap_map]
    exact List.filterMap_congr fun line member => writtenKey?_text (wellFormed line member)
  have atEnd : writtenKey? [] = none := rfl
  rw [writtenKeys, toList_print_object, splitOn_written _ wellFormed,
    List.filterMap_append, keysOfLines, filterMap_key?_lines,
    List.filterMap_cons_none atEnd, List.filterMap_nil, List.append_nil,
    ObjectStatement.ofDecl, List.map_map]
  rfl

/-- The block of a table is part of the text of its unit. -/
theorem block_infix_unitText
    (casing : Casing)
    (enums : List EnumDecl)
    {tables : List TableDecl}
    {declaration : TableDecl}
    (declared : declaration ∈ tables) :
    (ObjectStatement.ofDecl casing declaration).print.toList <:+:
      (unitText casing enums tables).toList := by
  have amongBlocks : (ObjectStatement.ofDecl casing declaration).print ∈
      enumBlocks enums ++ tableBlocks casing tables :=
    List.mem_append_right _ (List.mem_map_of_mem declared)
  let written := fun block : String => '\n' :: block.toList
  have inBlocks := List.infix_of_mem_flatten
    (List.mem_map_of_mem amongBlocks : written _ ∈ _)
  rw [← List.flatMap_def] at inBlocks
  rw [unitText, List.cons_append, toList_intercalate_lineFeed]
  exact (List.suffix_cons '\n' _).isInfix.trans
    (inBlocks.trans (List.suffix_append header.toList _).isInfix)

end Script

namespace Settings

open Script

/-- No two fields of a table of a report have the same emitted name. -/
theorem nodup_emittedNames_of_mem_tables
    {settings : Settings}
    {rows : List EnumRow}
    {inputs : List ReportedTable}
    {table : TableDecl}
    (declared : table ∈ (settings.generate rows inputs).tables) :
    (table.fields.map FieldDecl.emittedName).Nodup := by
  rw [tables_generate] at declared
  obtain ⟨input, _, rfl⟩ := List.mem_map.mp declared
  exact nodup_fieldNames settings (EnumRegistry.ofRows rows)
    (Column.keepFirst input.columns)

/-- The fields of a table of a report have distinct names. The block of the table in the
output writes one key for each field, in order and bare or quoted; the keys are distinct
as they are written, and they read as the names of the fields. -/
theorem output_writes_distinct_keys
    (settings : Settings)
    (rows : List EnumRow)
    (inputs : List ReportedTable)
    (position : Nat)
    (table : TableDecl)
    (declared : (settings.generate rows inputs).tables[position]? = some table) :
    let report := settings.generate rows inputs
    let block := (ObjectStatement.ofDecl settings.casing table).print
    (table.fields.map FieldDecl.emittedName).Nodup ∧
      block.toList <:+: report.output.toList ∧
      writtenKeys block = table.fields.map (fun field => key field.emittedName) ∧
      (writtenKeys block).Nodup ∧
      ∃ object, (readObjects report.output)[position]? = some object ∧
        object.fields.map ObjectField.name =
          table.fields.map FieldDecl.emittedName := by
  intro report block
  have member := List.mem_of_getElem? declared
  have distinct := nodup_emittedNames_of_mem_tables member
  have written : writtenKeys block =
      table.fields.map fun field => key field.emittedName :=
    writtenKeys_print settings.casing table
  have distinctKeys : (writtenKeys block).Nodup := by
    have keysOfNames := distinct.map key_injective
    rw [List.map_map] at keysOfNames
    exact written ▸ keysOfNames
  refine ⟨distinct, block_infix_unitText settings.casing _ member, written,
    distinctKeys, ObjectStatement.ofDecl settings.casing table, ?_, ?_⟩
  · rw [readObjects_generate, List.getElem?_map, declared, Option.map_some]
  · rw [ObjectStatement.ofDecl, List.map_map]
    rfl

/-- Names that differ in a backslash in front of a quote, or in letter case, have keys of
their own. -/
theorem quoted_names_have_distinct_keys :
    let settings : Settings := {}
    let inputs : List ReportedTable := [
      ⟨"notes", [
        { table := "notes", name := "id", typeText := "integer" },
        { table := "notes", name := "it's", typeText := "date" },
        { table := "notes", name := "ID", typeText := "boolean" },
        { table := "notes", name := "it\\'s", typeText := "json" },
        { table := "notes", name := "id", typeText := "text" }
      ]⟩
    ]
    let report := settings.generate [] inputs
    ∃ table, report.tables[0]? = some table ∧
      writtenKeys (ObjectStatement.ofDecl settings.casing table).print =
        ["id", "'it\\'s'", "ID", "'it\\\\\\'s'"] ∧
      (writtenKeys (ObjectStatement.ofDecl settings.casing table).print).Nodup := by
  intro settings inputs report
  let table : TableDecl := ⟨"notes", "notes", "notesType", [
    ⟨"id", "id", .number {}⟩, ⟨"it's", "it's", .date⟩, ⟨"ID", "ID", .boolean⟩,
    ⟨"it\\'s", "it\\'s", .any⟩]⟩
  have declared : report.tables[0]? = some table := by
    decide +kernel
  obtain ⟨_, _, written, distinct, _⟩ :=
    output_writes_distinct_keys settings [] inputs 0 table declared
  exact ⟨table, declared, written.trans (by decide +kernel), distinct⟩

end Settings
end TableTypes
