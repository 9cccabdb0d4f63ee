import Mathlib.Data.List.Nodup
import TableTypes.Proofs.Script.UnitReading

/-!
# Members of an enum block

The block of an enum has a line for every label, in order. A label that reads as a number
is renamed, and then every member has its label as a value. No member name reads as a
number, and no label is lost. The new name of a numeric label can be that of another
member, so that different labels may share a member.
-/

namespace TableTypes
namespace Script

/-- The members that a text declares on lines of their own, in order. -/
def Line.member? : Line -> Option EnumMember
  | .member written => some written
  | _ => none

/-- The members that the block of an enum declares, in order. -/
def readMembers (block : String) : List EnumMember :=
  (readLines block).filterMap Line.member?

/-! ## Names of numeric labels -/

/-- The character of an identifier that stands for a character of a label. -/
def identifierChar (c : Char) : Char :=
  if Unicode.isAlphanumeric c || c = '$' then c else '_'

/-- A label after a low line, with low lines for what no identifier has. -/
def numeralName (label : String) : String :=
  String.ofList ('_' :: label.toList.map identifierChar)

theorem identifierChar_of_continues
    {c : Char}
    (continues : continuesIdentifier c = true) :
    identifierChar c = c := by
  unfold continuesIdentifier at continues
  unfold identifierChar
  split
  next => rfl
  next replaced =>
    simp only [Bool.or_eq_true, decide_eq_true_eq, not_or] at continues replaced
    obtain ⟨notAlphanumeric, notDollar⟩ := replaced
    rcases continues with (alphanumeric | lowLine) | dollar
    · exact absurd alphanumeric notAlphanumeric
    · exact lowLine.symm
    · exact absurd dollar notDollar

/-- A name after a low line is declared with low lines for what no identifier has. -/
theorem declaredName_lowLine (label : String) :
    declaredName ("_" ++ label) = numeralName label := by
  have text : ("_" ++ label).toList = '_' :: label.toList := by
    rw [String.toList_append]
    rfl
  have notReserved : "_" ++ label ∉ reservedWords := by
    intro reserved
    have noLowLine := lowLine_notMem_of_mem_reservedWords reserved
    rw [text] at noLowLine
    exact noLowLine List.mem_cons_self
  unfold declaredName isIdentifier
  rw [text, if_neg notReserved]
  by_cases spells : spellsIdentifier ('_' :: label.toList) = true
  · have same : label.toList.map identifierChar = label.toList := by
      refine (List.map_congr_left fun c member => ?_).trans (List.map_id _)
      exact identifierChar_of_continues
        (continuesIdentifier_of_mem spells c (List.mem_cons_of_mem _ member))
    rw [if_pos spells, numeralName, same, ← text, String.ofList_toList]
  · rw [if_neg spells]
    rfl

/-- A text that begins with a low line does not read as a number. -/
theorem readsAsNumber_lowLine (text : List Char) :
    readsAsNumber (String.ofList ('_' :: text)) = false := by
  have noWord (kept : List Char) : isNumericWord ('_' :: kept) = false := by
    simp [isNumericWord]
  rw [readsAsNumber, String.toList_ofList, Unicode.trim_cons (by decide)]
  change (isNumericWord ('_' :: _) || isUnsignedDecimal ('_' :: _)) = false
  rw [noWord, Bool.false_or]
  rfl

/-! ## Reading a block -/

/-- The block of an enum reads as its lines. -/
theorem readLines_print (declaration : EnumDecl) :
    readLines (EnumStatement.ofDecl declaration).print =
      (EnumStatement.ofDecl declaration).lines ++ [.other []] := by
  rw [readLines, toList_print_enum,
    map_readLine_splitOn_written _ (wellFormed_lines_enum declaration)]

/-- The members of a block are those of its statement. -/
theorem readMembers_print (declaration : EnumDecl) :
    readMembers (EnumStatement.ofDecl declaration).print =
      (EnumStatement.ofDecl declaration).members := by
  have inMembers (members : List EnumMember) :
      (members.map Line.member).filterMap Line.member? = members := by
    rw [List.filterMap_map]
    exact List.filterMap_some
  have inClosing (isEmpty : Bool) (text : List Char) :
      (closing isEmpty text).filterMap Line.member? = [] := by
    cases isEmpty with
    | false => rfl
    | true => rfl
  rw [readMembers, readLines_print, EnumStatement.lines, List.filterMap_append,
    List.filterMap_cons_none rfl, List.filterMap_append, inMembers, inClosing,
    List.append_nil]
  exact List.append_nil _

/-! ## Members of labels -/

/-- The name of the member of a label. -/
def memberName (label : String) : String :=
  if readsAsNumber label then numeralName label else label

theorem memberName_of_numeral {label : String} (numeral : readsAsNumber label = true) :
    memberName label = numeralName label :=
  if_pos numeral

theorem memberName_of_not_numeral {label : String} (other : readsAsNumber label = false) :
    memberName label = label :=
  if_neg (by simp [other])

/-- No member has a name that reads as a number. -/
theorem readsAsNumber_memberName (label : String) :
    readsAsNumber (memberName label) = false := by
  cases kind : readsAsNumber label with
  | false => rw [memberName_of_not_numeral kind, kind]
  | true => rw [memberName_of_numeral kind, numeralName, readsAsNumber_lowLine]

/-- The members of an enum are those of its labels, all with their values or none. -/
theorem members_ofDecl (declaration : EnumDecl) :
    (EnumStatement.ofDecl declaration).members =
      declaration.labels.map fun label =>
        ⟨memberName label,
          if declaration.labels.any readsAsNumber then some label else none⟩ := by
  rw [EnumStatement.ofDecl_eq]
  simp only [declaredName_lowLine]
  rfl

/-- The names of the members of a block, as they are before quoting. -/
theorem names_readMembers_print (declaration : EnumDecl) :
    (readMembers (EnumStatement.ofDecl declaration).print).map EnumMember.name =
      declaration.labels.map memberName := by
  rw [readMembers_print, members_ofDecl, List.map_map]
  rfl

/-- The block of an enum with labels has one line for each label between its first line
and its last, and no member name on them reads as a number. When no label reads as a
number, the members have no values and their names are the labels. Otherwise the values
are the labels, and the labels that do not read as numbers are names as well. -/
theorem block_keeps_labels
    (declaration : EnumDecl)
    (labelled : declaration.labels ≠ []) :
    let block := (EnumStatement.ofDecl declaration).print
    let members := readMembers block
    block.toList.splitOn '\n' =
        ("export enum " ++ declaredName declaration.emittedName ++ " \x7b").toList
          :: (members.map fun member => (Line.member member).text)
            ++ ["\x7d".toList, []] ∧
      (∀ member ∈ members, readsAsNumber member.name = false) ∧
      (declaration.labels.any readsAsNumber = false ∧
          members.map EnumMember.value = declaration.labels.map (fun _ => none) ∧
          members.map EnumMember.name = declaration.labels ∨
        declaration.labels.any readsAsNumber = true ∧
          members.map EnumMember.value = declaration.labels.map some ∧
          List.Forall₂
            (fun label member => readsAsNumber label = false -> member.name = label)
            declaration.labels members) := by
  intro block members
  have named := names_readMembers_print declaration
  have declared : members = (EnumStatement.ofDecl declaration).members :=
    readMembers_print declaration
  have notEmpty : members.isEmpty = false := by
    rw [declared, members_ofDecl, List.isEmpty_map]
    simpa using labelled
  refine ⟨?_, ?_, ?_⟩
  · rw [toList_print_enum, splitOn_written _ (wellFormed_lines_enum declaration),
      EnumStatement.lines, ← declared, notEmpty, List.map_cons, List.map_append,
      List.map_map, Line.text_enumStart, String.toList_append, String.toList_append,
      List.append_assoc, List.cons_append, List.append_assoc]
    rfl
  · intro member among
    have nameAmong : member.name ∈ members.map EnumMember.name :=
      List.mem_map_of_mem among
    rw [named] at nameAmong
    obtain ⟨label, _, same⟩ := List.mem_map.mp nameAmong
    rw [← same]
    exact readsAsNumber_memberName label
  · rw [declared, members_ofDecl]
    cases anyNumeral : declaration.labels.any readsAsNumber with
    | false =>
        refine Or.inl ⟨rfl, ?_, ?_⟩
        · rw [List.map_map]
          rfl
        · rw [List.map_map]
          refine (List.map_congr_left fun label member => ?_).trans (List.map_id _)
          exact memberName_of_not_numeral
            (eq_false_of_ne_true (List.any_eq_false.mp anyNumeral label member))
    | true =>
        refine Or.inr ⟨rfl, ?_, ?_⟩
        · rw [List.map_map]
          rfl
        · rw [List.forall₂_map_right_iff, List.forall₂_same]
          exact fun label _ other => memberName_of_not_numeral other

/-- In a block with numeric labels every label is quoted, and a word for infinity is
renamed like a digit. -/
theorem rating_keeps_labels :
    let declaration : EnumDecl := ⟨"rating", "rating", ["1", "it's", "Infinity", "top"]⟩
    let block := (EnumStatement.ofDecl declaration).print
    let members := readMembers block
    declaration.labels ≠ [] ∧
      block = "export enum rating \x7b\n    _1 = '1',\n    'it\\'s' = 'it\\'s',\n" ++
        "    _Infinity = 'Infinity',\n    top = 'top',\n\x7d\n" ∧
      members.map EnumMember.value = declaration.labels.map some ∧
      ∀ member ∈ members, readsAsNumber member.name = false := by
  intro declaration block members
  have labelled : declaration.labels ≠ [] := by decide
  have numeric : declaration.labels.any readsAsNumber = true := by decide +kernel
  obtain ⟨_, noNumeral, plain | valued⟩ := block_keeps_labels declaration labelled
  · rw [numeric] at plain
    exact Bool.noConfusion plain.1
  · exact ⟨labelled, by decide +kernel, valued.2.1, noNumeral⟩

/-- The members of an enum with distinct labels have distinct names exactly when the new
names of its numeric labels differ from each other and from the other labels. -/
theorem nodup_memberNames_iff
    (declaration : EnumDecl)
    (distinct : declaration.labels.Nodup) :
    ((readMembers (EnumStatement.ofDecl declaration).print).map EnumMember.name).Nodup ↔
      (∀ first ∈ declaration.labels, ∀ second ∈ declaration.labels,
        readsAsNumber first = true -> readsAsNumber second = true ->
          numeralName first = numeralName second -> first = second) ∧
      ∀ numeral ∈ declaration.labels, ∀ label ∈ declaration.labels,
        readsAsNumber numeral = true -> readsAsNumber label = false ->
          label ≠ numeralName numeral := by
  rw [names_readMembers_print, List.nodup_map_iff_inj_on distinct]
  constructor
  · intro injective
    refine ⟨fun first firstAmong second secondAmong firstKind secondKind same => ?_,
      fun numeral numeralAmong label labelAmong numeralKind labelKind same => ?_⟩
    · refine injective first firstAmong second secondAmong ?_
      rw [memberName_of_numeral firstKind, memberName_of_numeral secondKind, same]
    · have equal := injective label labelAmong numeral numeralAmong (by
        rw [memberName_of_not_numeral labelKind, memberName_of_numeral numeralKind, same])
      rw [equal, numeralKind] at labelKind
      exact Bool.noConfusion labelKind
  · rintro ⟨numerals, others⟩ first firstAmong second secondAmong same
    cases firstKind : readsAsNumber first with
    | true =>
        rw [memberName_of_numeral firstKind] at same
        cases secondKind : readsAsNumber second with
        | true =>
            rw [memberName_of_numeral secondKind] at same
            exact numerals first firstAmong second secondAmong firstKind secondKind same
        | false =>
            rw [memberName_of_not_numeral secondKind] at same
            exact absurd same.symm
              (others first firstAmong second secondAmong firstKind secondKind)
    | false =>
        rw [memberName_of_not_numeral firstKind] at same
        cases secondKind : readsAsNumber second with
        | true =>
            rw [memberName_of_numeral secondKind] at same
            exact absurd same
              (others second secondAmong first firstAmong secondKind firstKind)
        | false =>
            rw [memberName_of_not_numeral secondKind] at same
            exact same

/-- Digits, a label in front of a low line and labels without digits have members of
their own. -/
theorem rating_members_distinct :
    let declaration : EnumDecl := ⟨"rating", "rating", ["1", "2", "_3", "top"]⟩
    declaration.labels.Nodup ∧
      ((readMembers (EnumStatement.ofDecl declaration).print).map
        EnumMember.name).Nodup := by
  intro declaration
  have distinct : declaration.labels.Nodup := by decide +kernel
  have separate :
      (∀ first ∈ declaration.labels, ∀ second ∈ declaration.labels,
        readsAsNumber first = true -> readsAsNumber second = true ->
          numeralName first = numeralName second -> first = second) ∧
      ∀ numeral ∈ declaration.labels, ∀ label ∈ declaration.labels,
        readsAsNumber numeral = true -> readsAsNumber label = false ->
          label ≠ numeralName numeral := by
    simp only [declaration]
    decide +kernel
  exact ⟨distinct, (nodup_memberNames_iff declaration distinct).mpr separate⟩

/-- A numeric label takes the name of the label that has a low line in front of the same
digits, and the sign of a number does not show in its name. -/
theorem lowLine_one_declared_twice :
    let withLowLine : EnumDecl := ⟨"rating", "rating", ["1", "_1"]⟩
    let withSigns : EnumDecl := ⟨"offset", "offset", ["-1", "+1"]⟩
    (EnumStatement.ofDecl withLowLine).print =
        "export enum rating \x7b\n    _1 = '1',\n    _1 = '_1',\n\x7d\n" ∧
      (withLowLine.labels.Nodup ∧
        ¬ ((readMembers (EnumStatement.ofDecl withLowLine).print).map
          EnumMember.name).Nodup) ∧
      withSigns.labels.Nodup ∧
        ¬ ((readMembers (EnumStatement.ofDecl withSigns).print).map
          EnumMember.name).Nodup := by
  decide +kernel

end Script
end TableTypes
