import TableTypes.Proofs.Script.UnitLines

/-!
# Reading units

What a unit declares can be read back from its text alone. The lines are read
from the last to the first, so that members and fields are known when the line
that opens their block is met. No reported name can pass for a part of another
line.
-/

namespace TableTypes
namespace Script

/-- The lines of a text as they read. -/
def readLines (text : String) : List Line :=
  (text.toList.splitOn '\n').map readLine

/-- What is known from the lines below a line: entries and a static type whose
block has not been opened yet, and the statements that are complete. -/
structure Pending where
  members : List EnumMember := []
  fields : List ObjectField := []
  typeName : String := ""
  statements : List Statement := []

namespace Pending

/-- What is known once the next line above is read. -/
def addLine (line : Line) (pending : Pending) : Pending :=
  match line with
  | .enumStart name _ =>
      {
        statements :=
          .enumeration ⟨name, pending.members⟩ :: pending.statements
      }
  | .member member => { pending with members := member :: pending.members }
  | .objectStart name _ =>
      {
        statements :=
          .object ⟨name, pending.typeName, pending.fields⟩ :: pending.statements
      }
  | .field field => { pending with fields := field :: pending.fields }
  | .typeAlias name _ => { pending with typeName := name }
  | .other _ => pending

/-- What is known once all lines are read. -/
def ofLines (lines : List Line) (below : Pending) : Pending :=
  lines.foldr addLine below

theorem ofLines_cons (line : Line) (lines : List Line) (below : Pending) :
    ofLines (line :: lines) below = (ofLines lines below).addLine line := rfl

theorem ofLines_append (first second : List Line) (below : Pending) :
    ofLines (first ++ second) below = ofLines first (ofLines second below) :=
  List.foldr_append

theorem ofLines_closing (isEmpty : Bool) (text : List Char) (below : Pending) :
    ofLines (closing isEmpty text) below = below := by
  cases isEmpty with
  | false => rfl
  | true => rfl

/-- Member lines put their members in front. -/
theorem ofLines_members (members : List EnumMember) (below : Pending) :
    ofLines (members.map Line.member) below =
      { below with members := members ++ below.members } := by
  induction members with
  | nil => rfl
  | cons member members inductionHypothesis =>
      rw [List.map_cons, ofLines_cons, inductionHypothesis]
      rfl

/-- Field lines put their fields in front. -/
theorem ofLines_fields (fields : List ObjectField) (below : Pending) :
    ofLines (fields.map Line.field) below =
      { below with fields := fields ++ below.fields } := by
  induction fields with
  | nil => rfl
  | cons field fields inductionHypothesis =>
      rw [List.map_cons, ofLines_cons, inductionHypothesis]
      rfl

/-- The lines of a statement put this statement in front and leave nothing
open. -/
theorem ofLines_statement
    (statement : Statement)
    (statements : List Statement) :
    ofLines statement.lines { statements := statements } =
      { statements := statement :: statements } := by
  cases statement with
  | enumeration statement =>
      unfold Statement.lines EnumStatement.lines
      rw [ofLines_cons, ofLines_append, ofLines_closing, ofLines_members,
        List.append_nil]
      rfl
  | object statement =>
      -- The static type stands below the fields, so it is known before them.
      have staticType :
          ofLines [.other [], .typeAlias statement.typeName statement.name]
              { statements := statements } =
            { typeName := statement.typeName, statements := statements } := rfl
      unfold Statement.lines ObjectStatement.lines
      rw [ofLines_cons, ofLines_append, ofLines_append, staticType,
        ofLines_closing, ofLines_fields, List.append_nil]
      rfl

/-- The lines of statements read as these statements, each after its blank
line. -/
theorem ofLines_statements (statements : List Statement) :
    ofLines
        (statements.flatMap fun statement => .other [] :: statement.lines) {} =
      { statements := statements } := by
  induction statements with
  | nil => rfl
  | cons statement statements inductionHypothesis =>
      rw [List.flatMap_cons, ofLines_append, inductionHypothesis, ofLines_cons,
        ofLines_statement]
      rfl

/-- The lines of a unit read as its statements. -/
theorem ofLines_unitLines (statements : List Statement) :
    ofLines (unitLines statements) {} = { statements := statements } := by
  rw [unitLines, ofLines_append, ofLines_statements]
  rfl

end Pending

/-- The statements that the text of a unit declares. -/
def readUnit (text : String) : List Statement :=
  (Pending.ofLines (readLines text) {}).statements

/-- Lines read as they were written. The end of the text reads as one blank line
more. -/
theorem map_readLine_splitOn_written
    (lines : List Line)
    (wellFormed : ∀ line ∈ lines, line.WellFormed) :
    ((written lines).splitOn '\n').map readLine = lines ++ [.other []] := by
  have read : ∀ line ∈ lines, readLine line.text = line :=
    fun line member => readLine_text (wellFormed line member)
  rw [splitOn_written lines wellFormed, List.map_append, List.map_map]
  refine congrArg (· ++ [Line.other []]) ?_
  exact (List.map_congr_left read).trans (List.map_id _)

/-- The lines of the text of a unit read as they were written. -/
theorem readLines_unitText
    (casing : Casing)
    (enums : List EnumDecl)
    (tables : List TableDecl) :
    readLines (unitText casing enums tables) =
      unitLines (unitStatements casing enums tables) ++ [.other []] := by
  rw [readLines, toList_unitText,
    map_readLine_splitOn_written _ (wellFormed_unitLines casing enums tables)]

/-- The text of a unit reads as its statements. -/
theorem readUnit_eq_unitStatements
    (casing : Casing)
    (enums : List EnumDecl)
    (tables : List TableDecl) :
    readUnit (unitText casing enums tables) =
      unitStatements casing enums tables := by
  rw [readUnit, readLines_unitText, Pending.ofLines_append]
  change (Pending.ofLines (unitLines _) {}).statements = _
  rw [Pending.ofLines_unitLines]

/-- An enum has a member for each of its labels, under the label itself or, when it reads
as a number, under another name. Once one label reads as a number, every member has its
label as a value. -/
theorem EnumStatement.ofDecl_eq (declaration : EnumDecl) :
    EnumStatement.ofDecl declaration = {
      name := declaredName declaration.emittedName
      members := declaration.labels.map fun label => {
        name := if readsAsNumber label then declaredName ("_" ++ label) else label
        value := if declaration.labels.any readsAsNumber then some label else none
      }
    } := by
  rw [ofDecl, EnumStatement.mk.injEq]
  refine ⟨rfl, ?_⟩
  cases anyNumeral : declaration.labels.any readsAsNumber with
  | true => rfl
  | false =>
      refine List.map_congr_left fun label member => ?_
      have notNumeral := List.any_eq_false.mp anyNumeral label member
      rw [EnumMember.plain, if_neg notNumeral]
      rfl

/-- The text of a unit determines what was declared. Reading it gives every enum with its
identifier and a member for each of its labels, and then every table with its identifiers
and a field for each of its fields, in order and with all names and labels as they were
before quoting. Each line of the text is one line of these statements, whatever
characters names and labels are made of. -/
theorem readUnit_unitText
    (casing : Casing)
    (enums : List EnumDecl)
    (tables : List TableDecl) :
    let declaredEnums : List Statement := enums.map fun declaration =>
      .enumeration {
        name := declaredName declaration.emittedName
        members := declaration.labels.map fun label => {
          name := if readsAsNumber label then declaredName ("_" ++ label) else label
          value := if declaration.labels.any readsAsNumber then some label else none
        }
      }
    let declaredTables : List Statement := tables.map fun declaration =>
      .object {
        name := declaredName declaration.emittedName
        typeName := declaredName declaration.typeName
        fields := declaration.fields.map fun field => {
          name := field.emittedName
          type := typeExpression casing field.type
        }
      }
    readUnit (unitText casing enums tables) = declaredEnums ++ declaredTables ∧
      (unitText casing enums tables).toList.splitOn '\n' =
        (unitLines (declaredEnums ++ declaredTables)).map Line.text ++ [[]] := by
  intro declaredEnums declaredTables
  have declared : unitStatements casing enums tables = declaredEnums ++ declaredTables := by
    simp only [unitStatements, EnumStatement.ofDecl_eq]
    rfl
  rw [← declared]
  exact ⟨readUnit_eq_unitStatements casing enums tables,
    splitOn_unitText casing enums tables⟩

/-! ## Enums and objects -/

namespace Statement

/-- The enum that a statement declares. -/
def enumeration? : Statement -> Option EnumStatement
  | .enumeration statement => some statement
  | .object _ => none

/-- The object that a statement declares. -/
def object? : Statement -> Option ObjectStatement
  | .enumeration _ => none
  | .object statement => some statement

end Statement

/-- The enums that a text declares, in order. -/
def readEnums (text : String) : List EnumStatement :=
  (readUnit text).filterMap Statement.enumeration?

/-- The objects that a text declares, in order. -/
def readObjects (text : String) : List ObjectStatement :=
  (readUnit text).filterMap Statement.object?

/-- The enums of a unit are read back in order. -/
theorem readEnums_unitText
    (casing : Casing)
    (enums : List EnumDecl)
    (tables : List TableDecl) :
    readEnums (unitText casing enums tables) =
      enums.map EnumStatement.ofDecl := by
  rw [readEnums, readUnit_eq_unitStatements, unitStatements,
    List.filterMap_append]
  simp [List.filterMap_map, Function.comp_def, Statement.enumeration?]

/-- The objects of a unit are read back in order. -/
theorem readObjects_unitText
    (casing : Casing)
    (enums : List EnumDecl)
    (tables : List TableDecl) :
    readObjects (unitText casing enums tables) =
      tables.map (ObjectStatement.ofDecl casing) := by
  rw [readObjects, readUnit_eq_unitStatements, unitStatements,
    List.filterMap_append]
  simp [List.filterMap_map, Function.comp_def, Statement.object?]

end Script
end TableTypes
