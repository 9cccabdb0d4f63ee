import TableTypes.Proofs.Script.Line
import TableTypes.Proofs.Script.TypeExpression
import TableTypes.Script.Printer

/-!
# The lines of a unit

A unit is written line by line: two imports, and for every statement a blank
line and the lines of the statement. Each line ends at its line feed and holds
no other, so that the lines of the text are the lines that were written.
-/

namespace TableTypes
namespace Script

/-- A declaration of a unit. -/
inductive Statement where
  | enumeration (statement : EnumStatement)
  | object (statement : ObjectStatement)
  deriving DecidableEq

/-- The last line of a block, unless the block ended on its first line. -/
def closing (isEmpty : Bool) (text : List Char) : List Line :=
  if isEmpty then [] else [.other text]

namespace EnumStatement

/-- The lines of an enum. -/
def lines (statement : EnumStatement) : List Line :=
  .enumStart statement.name statement.members.isEmpty
    :: (statement.members.map Line.member
      ++ closing statement.members.isEmpty "\x7d".toList)

end EnumStatement

namespace ObjectStatement

/-- The lines of an object and of its static type. -/
def lines (statement : ObjectStatement) : List Line :=
  .objectStart statement.name statement.fields.isEmpty
    :: (statement.fields.map Line.field
      ++ (closing statement.fields.isEmpty "\x7d)".toList
        ++ [.other [], .typeAlias statement.typeName statement.name]))

end ObjectStatement

namespace Statement

/-- The lines of a statement. -/
def lines : Statement -> List Line
  | .enumeration statement => statement.lines
  | .object statement => statement.lines

/-- The text of a statement. -/
def print : Statement -> String
  | .enumeration statement => statement.print
  | .object statement => statement.print

end Statement

/-- The statements of a unit. -/
def unitStatements
    (casing : Casing)
    (enums : List EnumDecl)
    (tables : List TableDecl) : List Statement :=
  enums.map (fun declaration => .enumeration (EnumStatement.ofDecl declaration))
    ++ tables.map fun declaration =>
      .object (ObjectStatement.ofDecl casing declaration)

/-- The lines of the imports. -/
def importLines : List Line :=
  importTexts.map fun text => .other text.toList

/-- The lines of a unit: a blank line stands before each statement. -/
def unitLines (statements : List Statement) : List Line :=
  importLines
    ++ statements.flatMap fun statement => .other [] :: statement.lines

/-! ## Writing -/

/-- Lines as they are written, each with a line feed at its end. -/
def written (lines : List Line) : List Char :=
  lines.flatMap fun line => line.text ++ ['\n']

theorem written_cons (line : Line) (lines : List Line) :
    written (line :: lines) = line.text ++ '\n' :: written lines := by
  rw [written, List.flatMap_cons, List.append_assoc, List.singleton_append,
    written]

theorem written_append (first second : List Line) :
    written (first ++ second) = written first ++ written second :=
  List.flatMap_append

theorem written_flatMap (lines : α -> List Line) (items : List α) :
    written (items.flatMap lines) =
      items.flatMap fun item => written (lines item) :=
  List.flatMap_assoc

/-- Printed pieces that are lines join to the lines as they are written. -/
theorem toList_join_print
    (print : α -> String)
    (line : α -> Line)
    (isLine : ∀ item, (print item).toList = (line item).text ++ ['\n'])
    (items : List α) :
    (String.join (items.map print)).toList = written (items.map line) := by
  rw [String.toList_join, written, List.flatMap_map, List.flatMap_map]
  exact congrArg (items.flatMap ·) (funext isLine)

/-- The header is printed as the lines of the imports. -/
theorem toList_header : header.toList = written importLines := by
  have joined : header = String.join (importTexts.map (· ++ "\n")) := by
    decide +kernel
  rw [joined, importLines]
  refine toList_join_print (· ++ "\n") (fun text => .other text.toList)
    (fun text => ?_) _
  rw [String.toList_append]
  rfl

/-- A member is printed as its line. -/
theorem toList_print_member (member : EnumMember) :
    member.print.toList = (Line.member member).text ++ ['\n'] := by
  obtain ⟨name, value⟩ := member
  rw [Line.text_member]
  cases value with
  | none =>
      simp only [EnumMember.print, String.toList_append, List.append_assoc]
      rfl
  | some label =>
      have equals : " = ".toList = [' ', '=', ' '] := rfl
      have ending : ",\n".toList = [',', '\n'] := rfl
      simp only [EnumMember.print, String.toList_append, memberRemainder,
        equals, ending, List.append_assoc, List.cons_append, List.nil_append]

/-- A field is printed as its line. -/
theorem toList_print_field (field : ObjectField) :
    field.print.toList = (Line.field field).text ++ ['\n'] := by
  rw [Line.text_field, ObjectField.print]
  simp only [String.toList_append, List.append_assoc, List.cons_append]
  rfl

theorem toList_braced_nil : (braced []).toList = ['{', '}'] := rfl

theorem toList_braced_cons (first : String) (rest : List String) :
    (braced (first :: rest)).toList =
      '{' :: '\n' :: ((String.join (first :: rest)).toList ++ ['}']) := by
  change ("\x7b\n" ++ String.join (first :: rest) ++ "\x7d").toList = _
  rw [String.toList_append, String.toList_append, List.append_assoc]
  rfl

/-- An enum is printed as its lines. -/
theorem toList_print_enum (statement : EnumStatement) :
    statement.print.toList = written statement.lines := by
  obtain ⟨name, members⟩ := statement
  unfold EnumStatement.print EnumStatement.lines
  rw [written_cons, written_append, Line.text_enumStart,
    ← toList_join_print EnumMember.print Line.member toList_print_member]
  cases members with
  | nil =>
      simp only [List.map_nil, toList_braced_nil, String.toList_append,
        List.append_assoc, List.cons_append]
      rfl
  | cons first rest =>
      simp only [List.map_cons, toList_braced_cons, String.toList_append,
        List.append_assoc, List.cons_append]
      rfl

/-- An object is printed as its lines. -/
theorem toList_print_object (statement : ObjectStatement) :
    statement.print.toList = written statement.lines := by
  obtain ⟨name, typeName, fields⟩ := statement
  unfold ObjectStatement.print ObjectStatement.lines
  rw [written_cons, written_append, written_append, written_cons, written_cons,
    Line.text_objectStart, Line.text_typeAlias,
    ← toList_join_print ObjectField.print Line.field toList_print_field]
  cases fields with
  | nil =>
      simp only [List.map_nil, toList_braced_nil, String.toList_append,
        List.append_assoc, List.cons_append]
      rfl
  | cons first rest =>
      simp only [List.map_cons, toList_braced_cons, String.toList_append,
        List.append_assoc, List.cons_append]
      rfl

/-- A statement is printed as its lines. -/
theorem toList_print_statement (statement : Statement) :
    statement.print.toList = written statement.lines := by
  cases statement with
  | enumeration statement => exact toList_print_enum statement
  | object statement => exact toList_print_object statement

/-- Blocks that are parted by line feeds follow each other with a line feed in
front of each but the first. -/
theorem toList_intercalate_lineFeed (first : String) (rest : List String) :
    (String.intercalate "\n" (first :: rest)).toList =
      first.toList ++ rest.flatMap fun block => '\n' :: block.toList := by
  induction rest generalizing first with
  | nil => simp
  | cons second rest inductionHypothesis =>
      rw [String.intercalate_cons_cons, String.toList_append,
        String.toList_append, inductionHypothesis second, List.flatMap_cons,
        List.append_assoc]
      rfl

/-- The blocks of a unit are its statements in print. -/
theorem blocks_eq_map_print
    (casing : Casing)
    (enums : List EnumDecl)
    (tables : List TableDecl) :
    enumBlocks enums ++ tableBlocks casing tables =
      (unitStatements casing enums tables).map Statement.print := by
  rw [unitStatements, List.map_append, List.map_map, List.map_map]
  rfl

/-- The text of a unit is written as its lines. -/
theorem toList_unitText
    (casing : Casing)
    (enums : List EnumDecl)
    (tables : List TableDecl) :
    (unitText casing enums tables).toList =
      written (unitLines (unitStatements casing enums tables)) := by
  have block (statement : Statement) :
      '\n' :: statement.print.toList =
        written (.other [] :: statement.lines) := by
    rw [toList_print_statement, written_cons]
    rfl
  rw [unitText, List.cons_append, blocks_eq_map_print,
    toList_intercalate_lineFeed, unitLines, written_append, toList_header,
    List.flatMap_map, written_flatMap]
  simp only [block]

/-! ## Splitting -/

/-- The end of a block is well formed when it is silent. -/
theorem wellFormed_closing
    {isEmpty : Bool}
    {text : List Char}
    (silent : text ∈ Line.silent) :
    ∀ line ∈ closing isEmpty text, line.WellFormed := by
  intro line member
  cases isEmpty with
  | true => cases member
  | false =>
      obtain rfl := List.mem_singleton.mp member
      exact silent

/-- The lines of a declared enum are well formed. -/
theorem wellFormed_lines_enum (declaration : EnumDecl) :
    ∀ line ∈ (EnumStatement.ofDecl declaration).lines, line.WellFormed := by
  intro line member
  unfold EnumStatement.lines at member
  rw [List.mem_cons, List.mem_append, List.mem_map] at member
  rcases member with rfl | ⟨written, _, rfl⟩ | last
  · exact isIdentifier_declaredName declaration.emittedName
  · trivial
  · exact wellFormed_closing (by decide) line last

/-- The lines of a declared table are well formed. -/
theorem wellFormed_lines_table (casing : Casing) (declaration : TableDecl) :
    ∀ line ∈ (ObjectStatement.ofDecl casing declaration).lines,
      line.WellFormed := by
  have objectIdentifier := isIdentifier_declaredName declaration.emittedName
  have typeIdentifier := isIdentifier_declaredName declaration.typeName
  intro line member
  unfold ObjectStatement.lines at member
  simp only [List.mem_cons, List.mem_append, List.mem_map, List.not_mem_nil,
    or_false] at member
  -- Only the type of a field is not quoted or an identifier.
  rcases member with rfl | ⟨written, declared, rfl⟩ | last | rfl | rfl
  · exact objectIdentifier
  · obtain ⟨field, _, rfl⟩ := List.mem_map.mp declared
    exact lineFeed_notMem_typeExpression casing field.type
  · exact wellFormed_closing (by decide) line last
  · exact List.mem_cons_self
  · exact ⟨typeIdentifier, objectIdentifier⟩

/-- Every line of a unit is well formed. -/
theorem wellFormed_unitLines
    (casing : Casing)
    (enums : List EnumDecl)
    (tables : List TableDecl) :
    ∀ line ∈ unitLines (unitStatements casing enums tables),
      line.WellFormed := by
  intro line member
  rw [unitLines, List.mem_append, List.mem_flatMap] at member
  rcases member with imported | ⟨statement, declared, member⟩
  · obtain ⟨text, isImport, rfl⟩ := List.mem_map.mp imported
    exact List.mem_map_of_mem (List.mem_append_right _ isImport)
  · rcases List.mem_cons.mp member with rfl | member
    · exact List.mem_cons_self
    · rw [unitStatements, List.mem_append, List.mem_map,
        List.mem_map] at declared
      rcases declared with ⟨declaration, _, rfl⟩ | ⟨declaration, _, rfl⟩
      · exact wellFormed_lines_enum declaration line member
      · exact wellFormed_lines_table casing declaration line member

/-- Lines without line feeds are the lines of their text. -/
theorem splitOn_written
    (lines : List Line)
    (wellFormed : ∀ line ∈ lines, line.WellFormed) :
    (written lines).splitOn '\n' = lines.map Line.text ++ [[]] := by
  induction lines with
  | nil => rfl
  | cons line lines inductionHypothesis =>
      have inLine := lineFeed_notMem_text (wellFormed line List.mem_cons_self)
      have inLines := inductionHypothesis fun other member =>
        wellFormed other (List.mem_cons_of_mem line member)
      rw [written_cons, List.splitOn_append_cons_self_of_not_mem inLine,
        inLines, List.map_cons, List.cons_append]

/-- The lines of the text of a unit are the lines of its statements, and the
text ends with a line end. -/
theorem splitOn_unitText
    (casing : Casing)
    (enums : List EnumDecl)
    (tables : List TableDecl) :
    (unitText casing enums tables).toList.splitOn '\n' =
      (unitLines (unitStatements casing enums tables)).map Line.text
        ++ [[]] := by
  rw [toList_unitText,
    splitOn_written _ (wellFormed_unitLines casing enums tables)]

end Script
end TableTypes
