import TableTypes.Proofs.Json.Literal
import TableTypes.Proofs.Script.EnumReference

/-!
# Reading type expressions

The text of a type expression tells its type: the builders, their nesting, every limit
and the identifiers of the enums. It tells nothing of an enum beyond its identifier, so
two types are written alike exactly when they agree up to the identifiers of their enums.
-/

namespace TableTypes

namespace FieldType

/-- Change the names of the enums that occur in a type. -/
def mapEnumNames (rename : String -> String) : FieldType -> FieldType
  | .text limits => .text limits
  | .number limits => .number limits
  | .boolean => .boolean
  | .date => .date
  | .enumRef name => .enumRef (rename name)
  | .any => .any
  | .array element => .array (element.mapEnumNames rename)
  | .optional inner => .optional (inner.mapEnumNames rename)

/-- The number of builders around the innermost one. -/
def nesting : FieldType -> Nat
  | .array element => element.nesting + 1
  | .optional inner => inner.nesting + 1
  | _ => 0

end FieldType

namespace Script

/-! ## Numbers and formats -/

/-- Read the digits that a text begins with, and what follows them. -/
def readDigits (text : List Char) : Nat × List Char :=
  (Nat.ofDigitChars 10 (text.takeWhile Char.isDigit) 0, text.dropWhile Char.isDigit)

/-- Read an integer with an optional sign, and what follows it. -/
def readInteger (text : List Char) : Int × List Char :=
  match after? ['-'] text with
  | some digits => (-(readDigits digits).1, (readDigits digits).2)
  | none => ((readDigits text).1, (readDigits text).2)

/-- Read a quoted tag of a format, and what follows it. -/
def readFormat (text : List Char) : Option TextFormat × List Char :=
  match (after? ['\''] text).bind readQuoted with
  | some (tag, rest) =>
      ([TextFormat.ipv4, .mac].find? fun format => format.tag.toList = tag, rest)
  | none => (none, text)

/-- The digits of a number in front of any other character are read off exactly. -/
theorem readDigits_repr_append
    (value : Nat)
    {next : Char}
    (stop : next.isDigit = false)
    (rest : List Char) :
    readDigits ((Nat.repr value).toList ++ next :: rest) = (value, next :: rest) := by
  have areDigits : ∀ c ∈ Nat.toDigits 10 value, c.isDigit = true := fun _ member =>
    Nat.isDigit_of_mem_toDigits (by decide) (by decide) member
  have notDigit : ¬next.isDigit = true := by simp [stop]
  rw [readDigits, Nat.toList_repr, List.takeWhile_append_of_pos areDigits,
    List.takeWhile_cons_of_neg notDigit, List.append_nil,
    Nat.ofDigitChars_toDigits (by decide) (by decide),
    List.dropWhile_append_of_pos areDigits, List.dropWhile_cons_of_neg notDigit]

/-- An integer in front of a character that is no digit is read off exactly. -/
theorem readInteger_decimal_append
    (value : Int)
    {next : Char}
    (stop : next.isDigit = false)
    (rest : List Char) :
    readInteger ((decimal value).toList ++ next :: rest) = (value, next :: rest) := by
  cases value with
  | ofNat value =>
      obtain ⟨c, digits, shape, isDigit⟩ := Json.exists_first_digit value
      have notSign : '-' ≠ c := by
        rintro rfl
        exact absurd isDigit (by decide)
      have unsigned : after? ['-'] ((decimal (Int.ofNat value)).toList ++ next :: rest) =
          none := by
        rw [decimal, Nat.toList_repr, shape, List.cons_append, after?, if_neg notSign]
      rw [readInteger, unsigned, decimal, readDigits_repr_append value stop]
      rfl
  | negSucc value =>
      have signed : (decimal (Int.negSucc value)).toList ++ next :: rest =
          ['-'] ++ ((Nat.repr (value + 1)).toList ++ next :: rest) := by
        rw [decimal, String.toList_append, List.append_assoc]
        rfl
      rw [readInteger, signed, after?_append]
      change (-((readDigits _).1 : Int), (readDigits _).2) = _
      rw [readDigits_repr_append (value + 1) stop]
      rfl

/-- A quoted tag is read as its format. -/
theorem readFormat_quoted_append (format : TextFormat) (rest : List Char) :
    readFormat ((quoted format.tag).toList ++ rest) = (some format, rest) := by
  have read : (after? ['\''] ((quoted format.tag).toList ++ rest)).bind readQuoted =
      some (format.tag.toList, rest) := by
    rw [toList_quoted, List.cons_append, List.append_assoc]
    exact readQuoted_escaped_append format.tag.toList rest
  rw [readFormat, read]
  cases format with
  | ipv4 => rfl
  | mac => rfl

/-! ## Limits -/

/-- Read an object of options by a reader of what it lists. Without an object nothing is
limited. -/
def readOptions {Limits : Type}
    (readListed : List Char -> Limits × List Char)
    (unlimited : Limits)
    (text : List Char) : Limits × List Char :=
  match after? "\x7b ".toList text with
  | some listed =>
      ((readListed listed).1,
        (after? " \x7d".toList (readListed listed).2).getD (readListed listed).2)
  | none => (unlimited, text)

/-- Read the options of a text: the least length, the format, or both in this order. -/
def readTextLimits (text : List Char) : TextLimits × List Char :=
  match after? "minLength: ".toList text with
  | some digits =>
      let minLength := UInt32.ofNat (readDigits digits).1
      match after? ", format: ".toList (readDigits digits).2 with
      | some literal => (⟨some minLength, (readFormat literal).1⟩, (readFormat literal).2)
      | none => (⟨some minLength, none⟩, (readDigits digits).2)
  | none =>
      match after? "format: ".toList text with
      | some literal => (⟨none, (readFormat literal).1⟩, (readFormat literal).2)
      | none => ({}, text)

/-- Read the option of a number. -/
def readNumberLimits (text : List Char) : NumberLimits × List Char :=
  match after? "minimum: ".toList text with
  | some value =>
      (⟨some (Int64.ofInt (readInteger value).1)⟩, (readInteger value).2)
  | none => ({}, text)

/-- An object is read when what it lists is read up to its end. -/
theorem readOptions_append {Limits : Type}
    {readListed : List Char -> Limits × List Char}
    {unlimited limits : Limits}
    (options : List String)
    (limited : options ≠ [])
    {rest : List Char}
    (listed : List Char)
    (written : (String.intercalate ", " options).toList ++ (" \x7d".toList ++ rest) =
      listed)
    (read : readListed listed = (limits, " \x7d".toList ++ rest)) :
    readOptions readListed unlimited ((optionObject options).toList ++ rest) =
      (limits, rest) := by
  have object : (optionObject options).toList ++ rest = "\x7b ".toList ++ listed := by
    rw [optionObject, if_neg (by simpa using limited), String.toList_append,
      String.toList_append, List.append_assoc, List.append_assoc, written]
  rw [readOptions, object, after?_append]
  change ((readListed listed).1,
    (after? " \x7d".toList (readListed listed).2).getD (readListed listed).2) = _
  rw [read, after?_append]
  rfl

/-- The options of a text are read as its limits. -/
theorem readTextLimits_append (limits : TextLimits) (rest : List Char) :
    readOptions readTextLimits {}
        ((optionObject (textOptions limits)).toList ++ ')' :: rest) =
      (limits, ')' :: rest) := by
  obtain ⟨minLength, format⟩ := limits
  let ending := " \x7d".toList ++ ')' :: rest
  cases minLength with
  | none =>
      cases format with
      | none => rfl
      | some format =>
          let literal := (quoted format.tag).toList ++ ending
          have noLength : after? "minLength: ".toList ("format: ".toList ++ literal) =
              none := rfl
          have formatRead : readFormat literal = (some format, ending) :=
            readFormat_quoted_append format ending
          refine readOptions_append (textOptions ⟨none, some format⟩)
            (List.cons_ne_nil _ _) ("format: ".toList ++ literal) ?_ ?_
          · simp [textOptions, literal, ending]
          · rw [readTextLimits, noLength, after?_append]
            simp only [formatRead]
            rfl
  | some minLength =>
      let digits := (Nat.repr minLength.toNat).toList
      cases format with
      | none =>
          have lengthRead : readDigits (digits ++ ending) = (minLength.toNat, ending) :=
            readDigits_repr_append minLength.toNat (by decide) _
          have noFormat : after? ", format: ".toList ending = none := rfl
          refine readOptions_append (textOptions ⟨some minLength, none⟩)
            (List.cons_ne_nil _ _) ("minLength: ".toList ++ (digits ++ ending)) ?_ ?_
          · simp [textOptions, digits, ending]
          · rw [readTextLimits, after?_append]
            simp only [lengthRead, noFormat, UInt32.ofNat_toNat]
            rfl
      | some format =>
          let literal := (quoted format.tag).toList ++ ending
          have lengthRead : readDigits (digits ++ (", format: ".toList ++ literal)) =
              (minLength.toNat, ", format: ".toList ++ literal) :=
            readDigits_repr_append minLength.toNat (by decide) _
          have formatRead : readFormat literal = (some format, ending) :=
            readFormat_quoted_append format ending
          refine readOptions_append (textOptions ⟨some minLength, some format⟩)
            (List.cons_ne_nil _ _)
            ("minLength: ".toList ++ (digits ++ (", format: ".toList ++ literal))) ?_ ?_
          · simp [textOptions, digits, literal, ending]
          · rw [readTextLimits, after?_append]
            simp only [lengthRead, after?_append, formatRead, UInt32.ofNat_toNat]
            rfl

/-- The option of a number is read as its limit. -/
theorem readNumberLimits_append (limits : NumberLimits) (rest : List Char) :
    readOptions readNumberLimits {}
        ((optionObject (numberOptions limits)).toList ++ ')' :: rest) =
      (limits, ')' :: rest) := by
  obtain ⟨minimum⟩ := limits
  cases minimum with
  | none => rfl
  | some minimum =>
      let ending := " \x7d".toList ++ ')' :: rest
      let digits := (decimal minimum.toInt).toList
      have minimumRead : readInteger (digits ++ ending) = (minimum.toInt, ending) :=
        readInteger_decimal_append minimum.toInt (by decide) _
      refine readOptions_append (numberOptions ⟨some minimum⟩) (List.cons_ne_nil _ _)
        ("minimum: ".toList ++ (digits ++ ending)) ?_ ?_
      · simp [numberOptions, digits, ending]
      · rw [readNumberLimits, after?_append]
        simp only [minimumRead, Int64.ofInt_toInt]
        rfl

/-! ## Types -/

/-- Read the name of a builder, and what follows its opening parenthesis. -/
def readBuilder (text : List Char) : Option (String × List Char) :=
  (after? "Type.".toList text).bind fun named =>
    (after? ['('] (named.dropWhile Char.isAlpha)).map fun argument =>
      (String.ofList (named.takeWhile Char.isAlpha), argument)

/-- Read the argument of a builder, given how to read the type that it may be. -/
def readArgument
    (readNested : List Char -> Option (FieldType × List Char))
    (name : String)
    (text : List Char) : Option (FieldType × List Char) :=
  if name = "String" then
    let (limits, rest) := readOptions readTextLimits {} text
    some (.text limits, rest)
  else if name = "Number" then
    let (limits, rest) := readOptions readNumberLimits {} text
    some (.number limits, rest)
  else if name = "Boolean" then some (.boolean, text)
  else if name = "Date" then some (.date, text)
  else if name = "Enum" then
    some (.enumRef (String.ofList (text.takeWhile continuesIdentifier)),
      text.dropWhile continuesIdentifier)
  else if name = "Any" then some (.any, text)
  else if name = "Array" then
    (readNested text).map fun (element, rest) => (.array element, rest)
  else if name = "Optional" then
    (readNested text).map fun (inner, rest) => (.optional inner, rest)
  else none

/-- Read a type expression and what follows it, with builders nested up to a depth. An
enum is read as its identifier. -/
def readType : Nat -> List Char -> Option (FieldType × List Char)
  | 0, _ => none
  | depth + 1, text =>
      (readBuilder text).bind fun (name, argument) =>
        (readArgument (readType depth) name argument).bind fun (type, rest) =>
          (after? [')'] rest).map fun rest => (type, rest)

/-- A call is read when its argument is read up to the closing parenthesis. -/
theorem readType_builder_append
    {depth : Nat}
    {name argument : String}
    (letters : name.toList.all Char.isAlpha = true)
    {type : FieldType}
    {rest : List Char}
    (read : readArgument (readType depth) name (argument.toList ++ ')' :: rest) =
      some (type, ')' :: rest)) :
    readType (depth + 1) ((builder name argument).toList ++ rest) = some (type, rest) := by
  have areLetters := List.all_eq_true.mp letters
  have notLetter : ¬Char.isAlpha '(' = true := by decide
  have call : (builder name argument).toList ++ rest =
      "Type.".toList ++ (name.toList ++ '(' :: (argument.toList ++ ')' :: rest)) := by
    rw [toList_builder_append, String.toList_append, String.toList_append,
      List.append_assoc, List.append_assoc]
    rfl
  have opened : readBuilder ((builder name argument).toList ++ rest) =
      some (name, argument.toList ++ ')' :: rest) := by
    rw [readBuilder, call, after?_append, Option.bind_some,
      List.takeWhile_append_of_pos areLetters, List.takeWhile_cons_of_neg notLetter,
      List.append_nil, List.dropWhile_append_of_pos areLetters,
      List.dropWhile_cons_of_neg notLetter, String.ofList_toList]
    rfl
  rw [readType, opened, Option.bind_some]
  change (readArgument (readType depth) name _).bind _ = _
  rw [read]
  rfl

/-- A type expression reads as its type, with every enum under its identifier. -/
theorem readType_typeExpression_append
    (casing : Casing)
    (type : FieldType)
    {depth : Nat}
    (deep : type.nesting < depth)
    (rest : List Char) :
    readType depth ((typeExpression casing type).toList ++ rest) =
      some (type.mapEnumNames (enumIdentifier casing), rest) := by
  induction depth generalizing type rest with
  | zero => exact absurd deep (Nat.not_lt_zero _)
  | succ depth inductionHypothesis =>
      cases type with
      | text limits =>
          refine readType_builder_append (by decide) ?_
          rw [readArgument, if_pos rfl, readTextLimits_append]
          rfl
      | number limits =>
          refine readType_builder_append (by decide) ?_
          rw [readArgument, if_neg (by decide), if_pos rfl, readNumberLimits_append]
          rfl
      | boolean => exact readType_builder_append (by decide) rfl
      | date => exact readType_builder_append (by decide) rfl
      | enumRef name =>
          have continues := continuesIdentifier_of_mem
            (isIdentifier_declaredName (casing.apply name))
          have stops : (')' :: rest).head?.any continuesIdentifier = false := by
            change continuesIdentifier ')' = false
            decide
          refine readType_builder_append (by decide) ?_
          change some (FieldType.enumRef (String.ofList (List.takeWhile _ _)),
            List.dropWhile _ _) = _
          rw [enumIdentifier, takeWhile_continuesIdentifier continues stops,
            dropWhile_continuesIdentifier continues stops, String.ofList_toList]
          rfl
      | any => exact readType_builder_append (by decide) rfl
      | array element =>
          have nested := inductionHypothesis element (Nat.lt_of_succ_lt_succ deep) (')' :: rest)
          refine readType_builder_append (by decide) ?_
          change (readType depth _).map _ = _
          rw [nested]
          rfl
      | optional inner =>
          have nested := inductionHypothesis inner (Nat.lt_of_succ_lt_succ deep) (')' :: rest)
          refine readType_builder_append (by decide) ?_
          change (readType depth _).map _ = _
          rw [nested]
          rfl

/-! ## Types that are written alike -/

/-- The identifier of an enum is written as it stands. -/
theorem typeExpression_mapEnumNames (casing : Casing) (type : FieldType) :
    typeExpression .verbatim (type.mapEnumNames (enumIdentifier casing)) =
      typeExpression casing type := by
  induction type with
  | enumRef name =>
      have plain : IsPlain (enumIdentifier casing name) :=
        isPlain_declaredName (casing.apply name)
      rw [FieldType.mapEnumNames, typeExpression, enumIdentifier, Casing.apply_verbatim,
        declaredName_of_isPlain plain, typeExpression]
  | array element inductionHypothesis =>
      rw [FieldType.mapEnumNames, typeExpression, inductionHypothesis, typeExpression]
  | optional inner inductionHypothesis =>
      rw [FieldType.mapEnumNames, typeExpression, inductionHypothesis, typeExpression]
  | _ => rfl

/-- Two types have the same expression exactly when they are equal once every enum is
replaced by its identifier. -/
theorem typeExpression_eq_iff (casing : Casing) (first second : FieldType) :
    typeExpression casing first = typeExpression casing second ↔
      first.mapEnumNames (enumIdentifier casing) =
        second.mapEnumNames (enumIdentifier casing) := by
  constructor
  · intro same
    let depth := max first.nesting second.nesting + 1
    have firstRead := readType_typeExpression_append casing first
      (Nat.lt_succ_of_le (Nat.le_max_left _ _) : first.nesting < depth) []
    have secondRead := readType_typeExpression_append casing second
      (Nat.lt_succ_of_le (Nat.le_max_right _ _) : second.nesting < depth) []
    rw [same, secondRead, Option.some.injEq, Prod.mk.injEq] at firstRead
    exact firstRead.1.symm
  · intro same
    rw [← typeExpression_mapEnumNames, same, typeExpression_mapEnumNames]

end Script
end TableTypes
