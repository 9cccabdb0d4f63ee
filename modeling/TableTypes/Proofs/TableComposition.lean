import TableTypes.Proofs.Generation
import TableTypes.Proofs.Script.UnitLines

/-!
# Tables are generated apart

Nothing is carried from one table of a generation to the next, and a block of a
unit does not depend on the blocks around it. So the report of two lists of
tables is put together from the reports of each: fields and errors one after the
other, and the text of the second list behind that of the first.
-/

namespace TableTypes

namespace Script

/-- The text that tables add behind the blocks before them, each block with its
blank line. -/
def addedText (casing : Casing) (tables : List TableDecl) : String :=
  String.join ((tableBlocks casing tables).map ("\n" ++ ·))

/-- Further blocks stand behind the text of the blocks before them, as long as
there is one. -/
theorem intercalate_lineFeed_append
    (first : String)
    (rest further : List String) :
    String.intercalate "\n" (first :: rest ++ further) =
      String.intercalate "\n" (first :: rest)
        ++ String.join (further.map ("\n" ++ ·)) := by
  refine String.toList_inj.mp ?_
  rw [List.cons_append, String.toList_append, toList_intercalate_lineFeed,
    toList_intercalate_lineFeed, List.flatMap_append, String.toList_join,
    List.flatMap_map, List.append_assoc]
  simp only [String.toList_append]
  rfl

/-- Tables that follow others add their text behind the text of the others. The
imports stand first in any unit, so this holds of a unit without a block too. -/
theorem unitText_append_tables
    (casing : Casing)
    (enums : List EnumDecl)
    (first second : List TableDecl) :
    unitText casing enums (first ++ second) =
      unitText casing enums first ++ addedText casing second := by
  have blocks : tableBlocks casing (first ++ second) =
      tableBlocks casing first ++ tableBlocks casing second :=
    List.map_append
  rw [unitText, unitText, blocks, ← List.append_assoc, List.cons_append,
    intercalate_lineFeed_append, addedText]

end Script

namespace Settings

/-- The text of a report ends with what its tables add to the text of a report
without tables. -/
theorem output_generate_eq_append
    (settings : Settings)
    (rows : List EnumRow)
    (inputs : List ReportedTable) :
    (settings.generate rows inputs).output =
      (settings.generate rows []).output
        ++ Script.addedText settings.casing
          (settings.generate rows inputs).tables :=
  Script.unitText_append_tables settings.casing _ [] _

/-- The report of two lists of tables has the tables and the errors of the first
and then those of the second, and the enums of either. Its text is the text of
the first list and what the second list adds to a text without tables. -/
theorem generate_append
    (settings : Settings)
    (rows : List EnumRow)
    (first second : List ReportedTable) :
    let report := settings.generate rows
    (report (first ++ second)).tables =
        (report first).tables ++ (report second).tables ∧
      (report (first ++ second)).errors =
        (report first).errors ++ (report second).errors ∧
      (report (first ++ second)).enums = (report first).enums ∧
      ∃ added,
        (∀ suffix, (report second).output = (report []).output ++ suffix ↔
          suffix = added) ∧
        (report (first ++ second)).output = (report first).output ++ added := by
  intro report
  have tables : (report (first ++ second)).tables =
      (report first).tables ++ (report second).tables := by
    simp only [report, tables_generate, List.map_append]
  have errors : (report (first ++ second)).errors =
      (report first).errors ++ (report second).errors := by
    simp only [report, errors_generate, List.flatMap_append]
  refine ⟨tables, errors, rfl,
    Script.addedText settings.casing (report second).tables,
    fun suffix => ?_, ?_⟩
  · have split := output_generate_eq_append settings rows second
    simp only [report, split, String.append_right_inj]
    exact eq_comm
  · calc
      (report (first ++ second)).output =
          Script.unitText settings.casing (report first).enums
            ((report first).tables ++ (report second).tables) := by
        rw [← tables]
        exact output_generate settings rows (first ++ second)
      _ = (report first).output
            ++ Script.addedText settings.casing (report second).tables :=
        Script.unitText_append_tables settings.casing _ _ _

end Settings
end TableTypes
