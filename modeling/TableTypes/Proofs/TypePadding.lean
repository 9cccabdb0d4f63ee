import TableTypes.Proofs.Enum.Registry
import TableTypes.Proofs.Nullability

/-!
# White space around a type text

The token of a type text is cut from the trimmed text, but the mark of an unsigned
number and the type text of enum columns are compared with the text as reported. So
white space around a type text makes no difference, except behind the mark of an
unsigned number, which is lost, and for enum columns, whose enum is then looked up by
the text with its white space.
-/

namespace TableTypes
namespace Column

open ColumnKind Unicode

/-- The text that marks an unsigned number at the end of its type text. -/
def unsignedMark : List Char :=
  " unsigned".toList

/-- Texts that are the same but for letter case have white space at the same places. -/
theorem all_isWhitespace_map_toLower (text : List Char) :
    (text.map Char.toLower).all isWhitespace = text.all isWhitespace := by
  rw [List.all_map]
  exact congrArg text.all (funext isWhitespace_toLower)

/-- A text with white space is not the type text of enum columns. -/
theorem isWhitespace_eq_false_of_sameText_enumTypeText
    {text : String}
    (same : sameText text enumTypeText = true)
    {c : Char}
    (member : c ∈ text.toList) :
    isWhitespace c = false := by
  have noBlank : (enumTypeText.toList.map Char.toLower).any isWhitespace = false := by
    decide +kernel
  rw [← (sameText_iff text enumTypeText).mp same, List.any_map,
    List.any_eq_false] at noBlank
  rw [← isWhitespace_toLower]
  exact eq_false_of_ne_true (noBlank c member)

/-! ## The mark of an unsigned number -/

/-- White space behind a text leaves no mark at its end. -/
theorem not_mark_suffix_append
    {after : List Char}
    (blank : after.all isWhitespace = true)
    (padded : after ≠ [])
    (text : List Char) :
    ¬ unsignedMark <:+ text ++ after := by
  rintro ⟨before, parts⟩
  have lastOfMark : (before ++ unsignedMark).getLast? = some 'd' := by
    rw [List.getLast?_append]
    rfl
  rw [parts, List.getLast?_append_of_ne_nil _ padded] at lastOfMark
  have blankLast := List.all_eq_true.mp blank 'd' (List.mem_of_getLast? lastOfMark)
  exact absurd blankLast (by decide)

/-- In front of a text white space completes the mark only when the text is the rest of
it. -/
theorem mark_suffix_append_iff
    {before : List Char}
    (blank : before.all isWhitespace = true)
    {text : List Char}
    (other : text ≠ "unsigned".toList) :
    unsignedMark <:+ before ++ text ↔ unsignedMark <:+ text := by
  refine ⟨fun marked => ?_, fun marked => marked.trans (List.suffix_append _ _)⟩
  rcases List.suffix_or_suffix_of_suffix marked (List.suffix_append before text) with
    inText | ⟨missing, parts⟩
  · exact inText
  · -- The part of the mark that the text lacks is white space, so at most its space.
    obtain ⟨beginning, whole⟩ := marked
    rw [← parts, ← List.append_assoc, List.append_left_inj] at whole
    rw [← whole, List.all_append, Bool.and_eq_true] at blank
    match missing, parts, blank.2 with
    | [], parts, _ => exact parts ▸ List.suffix_rfl
    | [_], parts, _ => exact absurd (List.cons.inj parts).2 other
    | _ :: second :: _, parts, missingBlank =>
        have isLetter : second = 'u' := (List.cons.inj (List.cons.inj parts).2).1
        rw [List.all_cons, List.all_cons, isLetter, Bool.and_eq_true,
          Bool.and_eq_true] at missingBlank
        exact absurd missingBlank.2.1 (by decide)

/-- A column of the catalogue is unsigned when its type text ends in the mark. -/
theorem isUnsigned_ofCatalogue
    (table name dataType nullability : String)
    (underlyingType : Option String) :
    (ofCatalogue table name dataType nullability underlyingType).isUnsigned = true ↔
      unsignedMark <:+ dataType.toList.map Char.toLower := by
  change unsignedMark.isSuffixOf dataType.toLower.toList = true ↔ _
  rw [List.isSuffixOf_iff_suffix, String.toLower, String.toList_map]

/-- The mark alone is the token of no kind. -/
theorem ne_unsigned_of_known
    {text : String}
    {kind : ColumnKind}
    (known : ofToken? (typeToken text) = some kind) :
    text.toList.map Char.toLower ≠ "unsigned".toList := by
  intro mark
  have same : typeToken text = typeToken "unsigned" :=
    Respells.typeToken_eq (.letterCase ((sameText_iff _ _).mpr (mark.trans (by decide))))
  have unknown : ofToken? (typeToken "unsigned") = none := by
    decide +kernel
  rw [same, unknown] at known
  cases known

/-- White space around the type text of a known kind takes the mark away when it stands
behind the text, and otherwise changes nothing about it. -/
theorem isUnsigned_padded_iff
    {before dataType after : String}
    (blankBefore : IsBlank before)
    (blankAfter : IsBlank after)
    {kind : ColumnKind}
    (known : ofToken? (typeToken dataType) = some kind)
    (table name nullability : String)
    (underlyingType : Option String) :
    let column := fun text =>
      ofCatalogue table name text nullability underlyingType
    (column (before ++ dataType ++ after)).isUnsigned = true ↔
      (column dataType).isUnsigned = true ∧ after = "" := by
  intro column
  rw [isUnsigned_ofCatalogue, isUnsigned_ofCatalogue, String.toList_append,
    String.toList_append, List.map_append, List.map_append]
  rw [IsBlank, ← all_isWhitespace_map_toLower] at blankBefore blankAfter
  by_cases ends : after = ""
  · subst ends
    have prefixed := mark_suffix_append_iff blankBefore (ne_unsigned_of_known known)
    simpa using prefixed
  · have padded : after.toList.map Char.toLower ≠ [] := by
      simpa using ends
    exact iff_of_false (not_mark_suffix_append blankAfter padded _)
      fun both => ends both.2

/-! ## The enum of a column -/

/-- White space around the type text takes the enum away, and then the column is looked
up by its whole type text. -/
theorem enumName_padded
    {before dataType after : String}
    (blankBefore : IsBlank before)
    (blankAfter : IsBlank after)
    (padded : before ++ after ≠ "")
    (table name nullability : String)
    (underlyingType : Option String) :
    (ofCatalogue table name (before ++ dataType ++ after) nullability
      underlyingType).enumName = none := by
  refine if_neg fun same => padded ?_
  have shown {c : Char} (member : c ∈ before.toList ∨ c ∈ after.toList) :
      isWhitespace c = false := by
    refine isWhitespace_eq_false_of_sameText_enumTypeText same ?_
    rw [String.toList_append, String.toList_append, List.mem_append, List.mem_append]
    exact member.imp_left Or.inl
  rw [← String.toList_inj, String.toList_append]
  refine List.eq_nil_iff_forall_not_mem.mpr fun c member => ?_
  have blank : isWhitespace c = true := by
    rcases List.mem_append.mp member with inBefore | inAfter
    · exact List.all_eq_true.mp blankBefore c inBefore
    · exact List.all_eq_true.mp blankAfter c inAfter
  rw [shown (List.mem_append.mp member)] at blank
  cases blank

/-! ## Types with and without the white space -/

/-- Two columns of one kind and the same nullability have the same type exactly when
their kinds give the same type. -/
theorem resolve_agree_iff
    (registry : EnumRegistry)
    (minLength : Option UInt32)
    (first second : Column)
    {kind : ColumnKind}
    (firstKnown : ofToken? (typeToken first.typeText) = some kind)
    (secondKnown : ofToken? (typeToken second.typeText) = some kind)
    (sameNullability : first.isNullable = second.isNullable) :
    (∀ type, first.resolve registry minLength = .ok type ↔
        second.resolve registry minLength = .ok type) ↔
      ∀ type, first.typeOfKind registry minLength kind = .ok type ↔
        second.typeOfKind registry minLength kind = .ok type := by
  rw [resolve_of_kind registry minLength first firstKnown,
    resolve_of_kind registry minLength second secondKnown, sameNullability]
  cases firstTyped : first.typeOfKind registry minLength kind with
  | error firstError =>
      cases secondTyped : second.typeOfKind registry minLength kind with
      | error secondError => simp [Except.map]
      | ok secondType => simp [Except.map]
  | ok firstType =>
      cases secondTyped : second.typeOfKind registry minLength kind with
      | error secondError => simp [Except.map]
      | ok secondType =>
          have wrapped := FieldType.toOptional_inj
            (required_of_typeOfKind registry minLength first firstTyped).1
            (required_of_typeOfKind registry minLength second secondTyped).1
          cases second.isNullable <;> simp [Except.map, wrapped]

/-- Two numeric columns have the same type exactly when both are unsigned or neither
is. -/
theorem typeOfKind_numeric_agree_iff
    (registry : EnumRegistry)
    (minLength : Option UInt32)
    (first second : Column) :
    (∀ type, first.typeOfKind registry minLength .numeric = .ok type ↔
        second.typeOfKind registry minLength .numeric = .ok type) ↔
      (first.isUnsigned = true ↔ second.isUnsigned = true) := by
  unfold typeOfKind
  cases first.isUnsigned <;> cases second.isUnsigned <;> simp

/-- Two enum columns have the same type exactly when the registry gives the same answer
for the names of their enums. -/
theorem typeOfKind_enumeration_agree_iff
    (registry : EnumRegistry)
    (minLength : Option UInt32)
    (first second : Column) :
    (∀ type, first.typeOfKind registry minLength .enumeration = .ok type ↔
        second.typeOfKind registry minLength .enumeration = .ok type) ↔
      registry.find? (first.enumName.getD first.typeText) =
        registry.find? (second.enumName.getD second.typeText) := by
  change (∀ type, first.resolveEnum registry = .ok type ↔
    second.resolveEnum registry = .ok type) ↔ _
  simp only [resolveEnum_eq_ok_iff]
  constructor
  · intro agree
    -- Of both enums that are found the names are the names looked up.
    cases firstFound : registry.find? (first.enumName.getD first.typeText) with
    | none =>
        cases secondFound : registry.find? (second.enumName.getD second.typeText) with
        | none => rfl
        | some enumeration =>
            obtain ⟨_, found, _⟩ := (agree _).mpr ⟨enumeration, secondFound, rfl⟩
            rw [firstFound] at found
            cases found
    | some enumeration =>
        obtain ⟨other, found, sameType⟩ := (agree _).mp ⟨enumeration, firstFound, rfl⟩
        have sameName : first.enumName.getD first.typeText =
            second.enumName.getD second.typeText := by
          rw [← EnumRegistry.name_of_find? firstFound, ← EnumRegistry.name_of_find? found]
          exact FieldType.enumRef.inj sameType
        rw [← firstFound, sameName]
  · intro same type
    rw [same]

section Padding

variable (registry : EnumRegistry) (minLength : Option UInt32)
variable (table name nullability : String) (underlyingType : Option String)
variable (dataType : String) {before after : String}

/-- White space leaves the type of a numeric column as it is, unless it stands behind the
mark of an unsigned number. -/
theorem numeric_padded_agree_iff
    (blankBefore : IsBlank before)
    (blankAfter : IsBlank after)
    (known : ofToken? (typeToken dataType) = some .numeric) :
    let column := fun text => ofCatalogue table name text nullability underlyingType
    (∀ type,
        (column (before ++ dataType ++ after)).typeOfKind registry minLength .numeric =
            .ok type ↔
          (column dataType).typeOfKind registry minLength .numeric = .ok type) ↔
      ((column dataType).isUnsigned = true -> after = "") := by
  intro column
  have unsigned : (column (before ++ dataType ++ after)).isUnsigned = true ↔
      (column dataType).isUnsigned = true ∧ after = "" :=
    isUnsigned_padded_iff blankBefore blankAfter known table name nullability
      underlyingType
  rw [typeOfKind_numeric_agree_iff, unsigned]
  exact ⟨fun agree isUnsigned => (agree.mpr isUnsigned).2,
    fun kept => ⟨And.left, fun isUnsigned => ⟨isUnsigned, kept isUnsigned⟩⟩⟩

/-- White space leaves the type of an enum column as it is, when there is none or when the
registry answers for the whole text as for the enum of the column. -/
theorem enumeration_padded_agree_iff
    (blankBefore : IsBlank before)
    (blankAfter : IsBlank after) :
    let column := fun text => ofCatalogue table name text nullability underlyingType
    (∀ type,
        (column (before ++ dataType ++ after)).typeOfKind registry minLength
            .enumeration = .ok type ↔
          (column dataType).typeOfKind registry minLength .enumeration = .ok type) ↔
      before ++ after = "" ∨
        registry.find? (before ++ dataType ++ after) =
          registry.find? ((column dataType).enumName.getD dataType) := by
  intro column
  rw [typeOfKind_enumeration_agree_iff]
  by_cases nothing : before ++ after = ""
  · have unpadded : before ++ dataType ++ after = dataType := by
      obtain ⟨rfl, rfl⟩ := String.append_eq_empty_iff.mp nothing
      rw [String.empty_append, String.append_empty]
    rw [unpadded]
    exact iff_of_true rfl (Or.inl nothing)
  · have lost : (column (before ++ dataType ++ after)).enumName = none :=
      enumName_padded blankBefore blankAfter nothing table name nullability
        underlyingType
    rw [lost, Option.getD_none]
    exact (or_iff_right nothing).symm

end Padding

/-- White space around the type text of a column leaves its type as it is, exactly when
it does not stand behind the mark of an unsigned number and does not change what the
registry answers for the enum of the column. It makes no difference for the columns of
any other kind. -/
theorem padded_type_resolves_alike_iff
    (registry : EnumRegistry)
    (minLength : Option UInt32)
    (table name nullability : String)
    (underlyingType : Option String)
    (before dataType after : String)
    (blankBefore : IsBlank before)
    (blankAfter : IsBlank after) :
    let column := fun text =>
      ofCatalogue table name text nullability underlyingType
    (∀ type,
        (column (before ++ dataType ++ after)).resolve registry minLength = .ok type ↔
          (column dataType).resolve registry minLength = .ok type) ↔
      (ofToken? (typeToken dataType) = some .numeric ->
        (column dataType).isUnsigned = true -> after = "") ∧
      (ofToken? (typeToken dataType) = some .enumeration ->
        before ++ after = "" ∨
          registry.find? (before ++ dataType ++ after) =
            registry.find? ((column dataType).enumName.getD dataType)) := by
  intro column
  let plain := column dataType
  let padded := column (before ++ dataType ++ after)
  have sameToken : typeToken padded.typeText = typeToken plain.typeText :=
    (Respells.typeToken_eq (.padding blankBefore blankAfter dataType)).symm
  have sameKind : ofToken? (typeToken padded.typeText) =
      ofToken? (typeToken plain.typeText) :=
    congrArg ofToken? sameToken
  change (∀ type, padded.resolve registry minLength = .ok type ↔
    plain.resolve registry minLength = .ok type) ↔
      (ofToken? (typeToken plain.typeText) = some .numeric -> _) ∧
      (ofToken? (typeToken plain.typeText) = some .enumeration -> _)
  cases known : ofToken? (typeToken plain.typeText) with
  | none =>
      rw [resolve_of_unknown registry minLength padded (sameKind.trans known),
        resolve_of_unknown registry minLength plain known]
      simp
  | some kind =>
      rw [resolve_agree_iff registry minLength padded plain (sameKind.trans known) known
        rfl]
      cases kind with
      | numeric =>
          have agree := numeric_padded_agree_iff registry minLength table name
            nullability underlyingType dataType blankBefore blankAfter known
          exact agree.trans ⟨fun kept => ⟨fun _ => kept, nofun⟩, fun kept => kept.1 rfl⟩
      | enumeration =>
          have agree := enumeration_padded_agree_iff registry minLength table name
            nullability underlyingType dataType blankBefore blankAfter
          exact agree.trans ⟨fun kept => ⟨nofun, fun _ => kept⟩, fun kept => kept.2 rfl⟩
      | _ => exact iff_of_true (fun _ => Iff.rfl) ⟨nofun, nofun⟩

/-- An unsigned number is recognised behind white space. -/
theorem indented_int_unsigned_resolves_alike :
    let column := fun text => ofCatalogue "posts" "views" text "NO" none
    IsBlank "\t " ∧ IsBlank "" ∧
      ∀ type,
        (column ("\t " ++ "int unsigned" ++ "")).resolve .empty none = .ok type ↔
          (column "int unsigned").resolve .empty none = .ok type := by
  intro column
  have blankBefore : IsBlank "\t " := by decide
  have blankAfter : IsBlank "" := by decide
  have known : ofToken? (typeToken "int unsigned") = some .numeric := by
    decide +kernel
  refine ⟨blankBefore, blankAfter, (padded_type_resolves_alike_iff .empty none "posts"
    "views" "NO" none "\t " "int unsigned" "" blankBefore blankAfter).mpr ?_⟩
  refine ⟨fun _ _ => rfl, fun enumeration => ?_⟩
  rw [known] at enumeration
  cases enumeration

/-- A space behind the type text takes the least value from an unsigned number and the
enum from an enum column. -/
theorem trailing_space_changes_types :
    let registry := EnumRegistry.ofRows [⟨"Role", "USER"⟩]
    let column := fun text => ofCatalogue "users" "role" text "NO" (some "Role")
    IsBlank " " ∧
      (column "int unsigned").resolve registry none =
        .ok (.number { minimum := some 0 }) ∧
      (column ("int unsigned" ++ " ")).resolve registry none = .ok (.number {}) ∧
      (column enumTypeText).resolve registry none = .ok (.enumRef "Role") ∧
      (column (enumTypeText ++ " ")).resolve registry none =
        .error ⟨"users", "role", .unknownEnum "USER-DEFINED "⟩ := by
  decide +kernel

end Column
end TableTypes
