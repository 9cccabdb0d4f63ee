import TableTypes.Proofs.Script.QuotedReading
import TableTypes.Script.Printer

/-!
# Lines of a unit

A unit is read line by line. Each line shows by its beginning what it says, and
the names and labels on it are read back without their quotes and escapes.
-/

namespace TableTypes
namespace Script

/-- A line of a unit by what it says. -/
inductive Line where
  /-- The first line of an enum, which is also its last when the enum has no
  members. -/
  | enumStart (name : String) (isEmpty : Bool)
  | member (member : EnumMember)
  /-- The first line of an object, which is also its last when the object has no
  fields. -/
  | objectStart (name : String) (isEmpty : Bool)
  | field (field : ObjectField)
  /-- The declaration of the static type of an object. -/
  | typeAlias (name objectName : String)
  /-- A line that declares nothing. -/
  | other (text : List Char)

/-- What follows the name of an enum on its first line, after a space. -/
def enumOpening (isEmpty : Bool) : List Char :=
  if isEmpty then "\x7b\x7d".toList else "\x7b".toList

/-- What follows the name of an object on its first line, after a space. -/
def objectOpening (isEmpty : Bool) : List Char :=
  if isEmpty then "= Type.Object(\x7b\x7d)".toList
  else "= Type.Object(\x7b".toList

/-- The imports of every unit, one a line. -/
def importTexts : List String :=
  [
    "import \x7b Type \x7d from '@sinclair/typebox'",
    "import type \x7b Static \x7d from '@sinclair/typebox'"
  ]

/-- What follows the key of a member on its line. -/
def memberRemainder : Option String -> List Char
  | none => [',']
  | some label => ' ' :: '=' :: ' ' :: ((quoted label).toList ++ [','])

namespace Line

/-- The characters of a line. -/
def text : Line -> List Char
  | .enumStart name isEmpty =>
      "export enum ".toList ++ (name.toList ++ ' ' :: enumOpening isEmpty)
  | .member written =>
      indentation.toList
        ++ ((key written.name).toList ++ memberRemainder written.value)
  | .objectStart name isEmpty =>
      "export const ".toList ++ (name.toList ++ ' ' :: objectOpening isEmpty)
  | .field written =>
      indentation.toList
        ++ ((key written.name).toList
          ++ ':' :: ' ' :: (written.type.toList ++ [',']))
  | .typeAlias name objectName =>
      "export type ".toList
        ++ (name.toList
          ++ ' ' :: ("= Static<typeof ".toList ++ (objectName.toList ++ ['>'])))
  | .other text => text

theorem text_enumStart (name : String) (isEmpty : Bool) :
    (enumStart name isEmpty).text =
      "export enum ".toList
        ++ (name.toList ++ ' ' :: enumOpening isEmpty) := rfl

theorem text_member (written : EnumMember) :
    (member written).text =
      indentation.toList
        ++ ((key written.name).toList ++ memberRemainder written.value) := rfl

theorem text_objectStart (name : String) (isEmpty : Bool) :
    (objectStart name isEmpty).text =
      "export const ".toList
        ++ (name.toList ++ ' ' :: objectOpening isEmpty) := rfl

theorem text_field (written : ObjectField) :
    (field written).text =
      indentation.toList
        ++ ((key written.name).toList
          ++ ':' :: ' ' :: (written.type.toList ++ [','])) := rfl

theorem text_typeAlias (name objectName : String) :
    (typeAlias name objectName).text =
      "export type ".toList
        ++ (name.toList
          ++ ' ' :: ("= Static<typeof ".toList
            ++ (objectName.toList ++ ['>']))) := rfl

/-- The lines that declare nothing: blank lines, ends of blocks and imports. -/
def silent : List (List Char) :=
  (["", "\x7d", "\x7d)"] ++ importTexts).map String.toList

/-- What a printer keeps of every line: declared names are identifiers, and the
type of a field stands on one line. -/
def WellFormed : Line -> Prop
  | .enumStart name _ => isIdentifier name = true
  | .member _ => True
  | .objectStart name _ => isIdentifier name = true
  | .field written => '\n' ∉ written.type.toList
  | .typeAlias name objectName =>
      isIdentifier name = true ∧ isIdentifier objectName = true
  | .other text => text ∈ silent

end Line

/-! ## Reading -/

/-- What follows a beginning of a text. -/
def after? : List Char -> List Char -> Option (List Char)
  | [], text => some text
  | _ :: _, [] => none
  | expected :: beginning, c :: text =>
      if expected = c then after? beginning text else none

@[simp] theorem after?_append (beginning rest : List Char) :
    after? beginning (beginning ++ rest) = some rest := by
  induction beginning with
  | nil => rfl
  | cons expected beginning inductionHypothesis =>
      rw [List.cons_append, after?, if_pos rfl, inductionHypothesis]

/-- Read a line that declares a name after a beginning, by what follows the
name. -/
def readDeclaration
    (beginning : List Char)
    (line : String -> List Char -> Line)
    (text : List Char) : Option Line :=
  (after? beginning text).map fun rest =>
    line (String.ofList (rest.takeWhile continuesIdentifier))
      (rest.dropWhile continuesIdentifier)

/-- Read what follows a key: a member ends or has its label, a field has its
type. -/
def readRemainder (name : String) : List Char -> Option Line
  | [','] => some (.member ⟨name, none⟩)
  | ' ' :: '=' :: ' ' :: '\'' :: literal =>
      (readQuoted literal).map fun (label, _) =>
        .member ⟨name, some (String.ofList label)⟩
  | ':' :: ' ' :: type => some (.field ⟨name, String.ofList type.dropLast⟩)
  | _ => none

theorem readRemainder_comma (name : String) :
    readRemainder name [','] = some (.member ⟨name, none⟩) := rfl

theorem readRemainder_equals (name : String) (literal : List Char) :
    readRemainder name (' ' :: '=' :: ' ' :: '\'' :: literal) =
      (readQuoted literal).map fun (label, _) =>
        .member ⟨name, some (String.ofList label)⟩ := rfl

theorem readRemainder_colon (name : String) (type : List Char) :
    readRemainder name (':' :: ' ' :: type) =
      some (.field ⟨name, String.ofList type.dropLast⟩) := rfl

/-- Read a member or a field. -/
def readEntry (text : List Char) : Option Line :=
  (after? indentation.toList text).bind fun entry =>
    (readKey entry).bind fun (name, remainder) =>
      readRemainder (String.ofList name) remainder

/-- Read the name of an object that a type stands for. -/
def readObjectName (text : List Char) : String :=
  String.ofList (((after? " = Static<typeof ".toList text).getD []).takeWhile
    continuesIdentifier)

/-- Read a line. -/
def readLine (text : List Char) : Line :=
  (readDeclaration "export enum ".toList
      (fun name rest => .enumStart name (rest = ' ' :: enumOpening true)) text
    <|> readDeclaration "export const ".toList
      (fun name rest => .objectStart name (rest = ' ' :: objectOpening true))
      text
    <|> readDeclaration "export type ".toList
      (fun name rest => .typeAlias name (readObjectName rest)) text
    <|> readEntry text).getD (.other text)

/-- A declared identifier is read up to its delimiter. -/
theorem readDeclaration_append
    (beginning : List Char)
    (line : String -> List Char -> Line)
    {name : String}
    (identifier : isIdentifier name = true)
    (delimiter : Char)
    (stops : delimiter ∈ delimiters)
    (rest : List Char) :
    readDeclaration beginning line
        (beginning ++ (name.toList ++ delimiter :: rest)) =
      some (line name (delimiter :: rest)) := by
  have continues := continuesIdentifier_of_mem identifier
  rw [readDeclaration, after?_append, Option.map_some,
    takeWhile_identifier continues _ stops,
    dropWhile_identifier continues _ stops, String.ofList_toList]

/-- A key at the beginning of an entry is read up to its delimiter. -/
theorem readEntry_append
    (name : String)
    (delimiter : Char)
    (stops : delimiter ∈ delimiters)
    (rest : List Char) :
    readEntry (indentation.toList ++ ((key name).toList ++ delimiter :: rest)) =
      readRemainder name (delimiter :: rest) := by
  rw [readEntry, after?_append, Option.bind_some,
    readKey_key_append name _ stops, Option.bind_some]
  change readRemainder (String.ofList name.toList) _ = _
  rw [String.ofList_toList]

/-- The line of a member reads as this member. -/
theorem readEntry_member (member : EnumMember) :
    readEntry (Line.member member).text = some (.member member) := by
  obtain ⟨name, value⟩ := member
  rw [Line.text_member]
  cases value with
  | none =>
      rw [memberRemainder, readEntry_append name ',' (by decide),
        readRemainder_comma]
  | some label =>
      rw [memberRemainder, readEntry_append name ' ' (by decide), toList_quoted,
        List.cons_append, List.append_assoc, List.singleton_append,
        readRemainder_equals, readQuoted_escaped_append, Option.map_some]
      change some (Line.member ⟨name, some (String.ofList label.toList)⟩) = _
      rw [String.ofList_toList]

/-- The line of a field reads as this field. -/
theorem readEntry_field (field : ObjectField) :
    readEntry (Line.field field).text = some (.field field) := by
  obtain ⟨name, type⟩ := field
  rw [Line.text_field, readEntry_append name ':' (by decide),
    readRemainder_colon, List.dropLast_concat, String.ofList_toList]

/-- The name of an object is read off the end of the declaration of its type. -/
theorem readObjectName_append
    {name : String}
    (identifier : isIdentifier name = true) :
    readObjectName
        (' ' :: ("= Static<typeof ".toList ++ (name.toList ++ ['>']))) =
      name := by
  have continues := continuesIdentifier_of_mem identifier
  have read := after?_append " = Static<typeof ".toList (name.toList ++ ['>'])
  change String.ofList
    (((after? _ (" = Static<typeof ".toList ++ (name.toList ++ ['>']))).getD
      []).takeWhile _) = _
  rw [read, Option.getD_some, takeWhile_identifier continues '>' (by decide),
    String.ofList_toList]

/-- A line reads as what it says. -/
theorem readLine_text {line : Line} (wellFormed : line.WellFormed) :
    readLine line.text = line := by
  cases line with
  | enumStart name isEmpty =>
      unfold readLine
      rw [Line.text_enumStart,
        readDeclaration_append "export enum ".toList _ wellFormed ' '
          (by decide)]
      cases isEmpty with
      | false => rfl
      | true => rfl
  | member member =>
      have read := readEntry_member member
      unfold readLine
      rw [read]
      rfl
  | objectStart name isEmpty =>
      unfold readLine
      rw [Line.text_objectStart,
        readDeclaration_append "export const ".toList _ wellFormed ' '
          (by decide)]
      cases isEmpty with
      | false => rfl
      | true => rfl
  | field field =>
      have read := readEntry_field field
      unfold readLine
      rw [read]
      rfl
  | typeAlias name objectName =>
      obtain ⟨typeIdentifier, objectIdentifier⟩ := wellFormed
      unfold readLine
      rw [Line.text_typeAlias,
        readDeclaration_append "export type ".toList _ typeIdentifier ' '
          (by decide),
        readObjectName_append objectIdentifier]
      rfl
  | other text =>
      obtain ⟨silent, listed, rfl⟩ := List.mem_map.mp wellFormed
      simp only [importTexts, List.cons_append, List.nil_append, List.mem_cons,
        List.not_mem_nil, or_false] at listed
      rcases listed with rfl | rfl | rfl | rfl | rfl
      · rfl
      · rfl
      · rfl
      · rfl
      · rfl

/-- What follows the key of a member has no line feed. -/
theorem lineFeed_notMem_memberRemainder (value : Option String) :
    '\n' ∉ memberRemainder value := by
  cases value with
  | none => decide
  | some label => simp [memberRemainder, lineFeed_notMem_quoted]

/-- No line of a unit contains a line feed. -/
theorem lineFeed_notMem_text {line : Line} (wellFormed : line.WellFormed) :
    '\n' ∉ line.text := by
  cases line with
  | enumStart name isEmpty =>
      have opening : '\n' ∉ ' ' :: enumOpening isEmpty := by
        cases isEmpty <;> decide
      simp only [Line.text_enumStart, List.mem_append, not_or]
      exact ⟨by decide, lineFeed_notMem_identifier wellFormed, opening⟩
  | member member =>
      simp only [Line.text_member, List.mem_append, not_or]
      exact ⟨by decide, lineFeed_notMem_key member.name,
        lineFeed_notMem_memberRemainder member.value⟩
  | objectStart name isEmpty =>
      have opening : '\n' ∉ ' ' :: objectOpening isEmpty := by
        cases isEmpty <;> decide
      simp only [Line.text_objectStart, List.mem_append, not_or]
      exact ⟨by decide, lineFeed_notMem_identifier wellFormed, opening⟩
  | field field =>
      have inType : '\n' ∉ field.type.toList := wellFormed
      simp only [Line.text_field, List.mem_append, not_or]
      exact ⟨by decide, lineFeed_notMem_key field.name, by simpa using inType⟩
  | typeAlias name objectName =>
      obtain ⟨typeIdentifier, objectIdentifier⟩ := wellFormed
      have separator : '\n' ∉ "= Static<typeof ".toList := by decide
      have inObject := lineFeed_notMem_identifier objectIdentifier
      simp only [Line.text_typeAlias, List.mem_append, List.mem_cons, not_or]
      exact ⟨by decide, lineFeed_notMem_identifier typeIdentifier, by decide,
        separator, inObject, by decide, by simp⟩
  | other text =>
      have none : ∀ silent ∈ Line.silent, '\n' ∉ silent := by
        decide +kernel
      exact none text wellFormed

end Script
end TableTypes
