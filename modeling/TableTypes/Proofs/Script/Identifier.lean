import TableTypes.Script.Identifier

/-!
# Identifiers and their delimiters

No character that delimits a part of a printed unit can occur in an identifier,
so that a bare name ends where its identifier characters end. Every declared
name is an identifier.
-/

namespace TableTypes
namespace Script

/-- What may start an identifier may also go on with it. -/
theorem continuesIdentifier_of_starts
    {c : Char}
    (starts : startsIdentifier c = true) :
    continuesIdentifier c = true := by
  unfold startsIdentifier at starts
  unfold continuesIdentifier Unicode.isAlphanumeric
  simp only [Bool.or_eq_true] at starts ⊢
  rcases starts with (alphabetic | lowLine) | dollar
  · exact Or.inl (Or.inl (Or.inl alphabetic))
  · exact Or.inl (Or.inr lowLine)
  · exact Or.inr dollar

/-- Every character of an identifier is an identifier character. -/
theorem continuesIdentifier_of_mem
    {text : List Char}
    (spells : spellsIdentifier text = true) :
    ∀ c ∈ text, continuesIdentifier c = true := by
  cases text with
  | nil => simp
  | cons first rest =>
      rw [spellsIdentifier, Bool.and_eq_true, List.all_eq_true] at spells
      intro c member
      rcases List.mem_cons.mp member with rfl | later
      · exact continuesIdentifier_of_starts spells.1
      · exact spells.2 c later

/-- An identifier that goes on with identifier characters is an identifier. -/
theorem spellsIdentifier_append
    {text ending : List Char}
    (spells : spellsIdentifier text = true)
    (continues : ending.all continuesIdentifier = true) :
    spellsIdentifier (text ++ ending) = true := by
  cases text with
  | nil => cases spells
  | cons first rest =>
      rw [spellsIdentifier, Bool.and_eq_true] at spells
      rw [List.cons_append, spellsIdentifier, List.all_append, spells.1,
        spells.2, continues]
      rfl

/-- Identifier characters form an identifier once a low line is put in front of
what cannot start one. -/
theorem spellsIdentifier_of_all_continues (text : List Char) :
    text.all continuesIdentifier = true ->
      spellsIdentifier
        (match text with
          | [] => ['_']
          | first :: rest =>
              if startsIdentifier first then first :: rest
              else '_' :: first :: rest) = true := by
  intro continues
  cases text with
  | nil => rfl
  | cons first rest =>
      by_cases starts : startsIdentifier first = true
      · rw [List.all_cons, Bool.and_eq_true] at continues
        simp only [starts, if_true, spellsIdentifier, continues.2,
          Bool.and_true]
      · simp only [starts, Bool.false_eq_true, if_false, spellsIdentifier,
          continues, Bool.and_true]
        rfl

/-- The character that a repaired text has for another. -/
def mended (c : Char) : Char :=
  if Unicode.isAlphanumeric c || c = '$' then c else '_'

theorem repair_cons (first : Char) (rest : List Char) :
    repair (first :: rest) =
      if startsIdentifier (mended first) then mended first :: rest.map mended
      else '_' :: mended first :: rest.map mended :=
  rfl

theorem continuesIdentifier_mended (c : Char) :
    continuesIdentifier (mended c) = true := by
  unfold mended
  split
  next kept =>
    rw [Bool.or_eq_true] at kept
    unfold continuesIdentifier
    rcases kept with alphanumeric | dollar
    · simp [alphanumeric]
    · simp [dollar]
  next => rfl

/-- The repaired text is an identifier. -/
theorem spellsIdentifier_repair (name : List Char) :
    spellsIdentifier (repair name) = true := by
  refine spellsIdentifier_of_all_continues (name.map mended) ?_
  rw [List.all_map, List.all_eq_true]
  exact fun c _ => continuesIdentifier_mended c

/-- Every declared name is an identifier. -/
theorem isIdentifier_declaredName (name : String) :
    isIdentifier (declaredName name) = true := by
  unfold declaredName isIdentifier
  by_cases spells : spellsIdentifier name.toList = true
  · rw [if_pos spells]
    split
    · rw [String.toList_append]
      exact spellsIdentifier_append spells (by decide)
    · exact spells
  · rw [if_neg spells, String.toList_ofList]
    exact spellsIdentifier_repair name.toList

/-! ## Declared names -/

/-- No reserved word has a low line. -/
theorem lowLine_notMem_of_mem_reservedWords
    {word : String}
    (reserved : word ∈ reservedWords) :
    '_' ∉ word.toList := by
  have noLowLine : reservedWords.all (fun word => !word.toList.contains '_') := by
    decide +kernel
  simpa using List.all_eq_true.mp noLowLine word reserved

/-- A text that is no identifier has a low line once it is repaired: one stands for a
character that no identifier has, or in front of what cannot start an identifier. -/
theorem lowLine_mem_repair
    {name : List Char}
    (notIdentifier : spellsIdentifier name = false) :
    '_' ∈ repair name := by
  cases name with
  | nil => exact List.mem_singleton_self '_'
  | cons first rest =>
      rw [repair_cons]
      by_cases replaced : '_' ∈ (first :: rest).map mended
      · split
        · exact replaced
        · exact List.mem_cons_of_mem '_' replaced
      · -- Every character is kept, so it is the first that fails.
        have kept (c : Char) (member : c ∈ first :: rest) :
            (Unicode.isAlphanumeric c || c = '$') = true := by
          refine Decidable.by_contra fun fails => replaced ?_
          exact List.mem_map.mpr ⟨c, member, if_neg fails⟩
        have restContinues : rest.all continuesIdentifier = true := by
          refine List.all_eq_true.mpr fun c member => ?_
          have keptHere := kept c (List.mem_cons_of_mem first member)
          rw [Bool.or_eq_true] at keptHere
          unfold continuesIdentifier
          rw [Bool.or_eq_true, Bool.or_eq_true]
          exact keptHere.imp Or.inl id
        have cannotStart : startsIdentifier first = false := by
          rw [spellsIdentifier, restContinues, Bool.and_true] at notIdentifier
          exact notIdentifier
        have same : mended first = first := if_pos (kept first List.mem_cons_self)
        rw [same, cannotStart]
        exact List.mem_cons_self

/-- No name is declared under a reserved word. -/
theorem declaredName_notMem_reservedWords (name : String) :
    declaredName name ∉ reservedWords := by
  intro reserved
  have noLowLine := lowLine_notMem_of_mem_reservedWords reserved
  unfold declaredName at reserved noLowLine
  cases identifier : isIdentifier name with
  | false =>
      rw [if_neg (by simp [identifier]), String.toList_ofList] at noLowLine
      exact noLowLine (lowLine_mem_repair identifier)
  | true =>
      rw [if_pos identifier] at reserved noLowLine
      split at reserved
      next isReserved =>
        rw [if_pos isReserved, String.toList_append] at noLowLine
        exact noLowLine (List.mem_append_right _ (by decide))
      next notReserved => exact notReserved reserved

/-- A name is plain when it can be declared as it stands. -/
def IsPlain (name : String) : Prop :=
  isIdentifier name = true ∧ name ∉ reservedWords

/-- A plain name is declared as it stands. -/
theorem declaredName_of_isPlain {name : String} (plain : IsPlain name) :
    declaredName name = name := by
  rw [declaredName, if_pos plain.1, if_neg plain.2]

/-- Every declared name can be declared as it stands. -/
theorem isPlain_declaredName (name : String) : IsPlain (declaredName name) :=
  ⟨isIdentifier_declaredName name, declaredName_notMem_reservedWords name⟩

/-- Every name is declared under an identifier that is no reserved word. A name that is
such an identifier, and no other name, is declared as it stands; so the change of a
declared name changes nothing. -/
theorem declaredName_declarable (name : String) :
    (isIdentifier (declaredName name) = true ∧ declaredName name ∉ reservedWords) ∧
      (declaredName name = name ↔
        isIdentifier name = true ∧ name ∉ reservedWords) ∧
      declaredName (declaredName name) = declaredName name := by
  have plain := isPlain_declaredName name
  refine ⟨plain, ⟨fun unchanged => ?_, declaredName_of_isPlain⟩,
    declaredName_of_isPlain plain⟩
  rw [unchanged] at plain
  exact plain

/-- The only reserved word that ends in `Type` is this word itself. -/
theorem eq_type_of_mem_reservedWords :
    ∀ word ∈ reservedWords,
      "Type".toList.isSuffixOf word.toList = true -> word = "Type" := by
  decide +kernel

/-- The name of the static type of a plain name is plain. -/
theorem isPlain_append_type {name : String} (plain : IsPlain name) :
    IsPlain (name ++ "Type") := by
  refine ⟨?_, fun reserved => ?_⟩
  · rw [isIdentifier, String.toList_append]
    exact spellsIdentifier_append plain.1 (by decide)
  · have endsInType :
        "Type".toList.isSuffixOf (name ++ "Type").toList = true := by
      rw [String.toList_append, List.isSuffixOf_iff_suffix]
      exact List.suffix_append name.toList "Type".toList
    have same := eq_type_of_mem_reservedWords _ reserved endsInType
    have empty : name = "" := by
      simpa using congrArg String.length same
    rw [empty] at plain
    exact absurd plain.1 (by decide)

/-! ## Delimiters -/

/-- The characters of the notation around names. -/
def delimiters : List Char :=
  ['\n', ' ', ',', ':', '\'', '>', '(']

/-- No delimiter is an identifier character. -/
theorem continuesIdentifier_delimiter :
    ∀ c ∈ delimiters, continuesIdentifier c = false := by
  have none : delimiters.any continuesIdentifier = false := by
    decide
  intro c member
  exact eq_false_of_ne_true (List.any_eq_false.mp none c member)

/-- The identifier characters in front of a text that no identifier goes on with are
read off exactly. -/
theorem takeWhile_continuesIdentifier
    {name rest : List Char}
    (continues : ∀ c ∈ name, continuesIdentifier c = true)
    (stops : rest.head?.any continuesIdentifier = false) :
    (name ++ rest).takeWhile continuesIdentifier = name := by
  rw [List.takeWhile_append_of_pos continues]
  cases rest with
  | nil => exact List.append_nil name
  | cons next rest =>
      rw [List.takeWhile_cons_of_neg (by simpa using stops), List.append_nil]

/-- What follows the identifier characters is the text that no identifier goes on
with. -/
theorem dropWhile_continuesIdentifier
    {name rest : List Char}
    (continues : ∀ c ∈ name, continuesIdentifier c = true)
    (stops : rest.head?.any continuesIdentifier = false) :
    (name ++ rest).dropWhile continuesIdentifier = rest := by
  rw [List.dropWhile_append_of_pos continues]
  cases rest with
  | nil => rfl
  | cons next rest => exact List.dropWhile_cons_of_neg (by simpa using stops)

/-- The identifier characters in front of a delimiter are read off exactly. -/
theorem takeWhile_identifier
    {name : List Char}
    (continues : ∀ c ∈ name, continuesIdentifier c = true)
    (delimiter : Char)
    (stops : delimiter ∈ delimiters)
    (rest : List Char) :
    (name ++ delimiter :: rest).takeWhile continuesIdentifier = name :=
  takeWhile_continuesIdentifier continues
    (continuesIdentifier_delimiter delimiter stops)

/-- What follows an identifier begins at the delimiter. -/
theorem dropWhile_identifier
    {name : List Char}
    (continues : ∀ c ∈ name, continuesIdentifier c = true)
    (delimiter : Char)
    (stops : delimiter ∈ delimiters)
    (rest : List Char) :
    (name ++ delimiter :: rest).dropWhile continuesIdentifier =
      delimiter :: rest :=
  dropWhile_continuesIdentifier continues
    (continuesIdentifier_delimiter delimiter stops)

end Script
end TableTypes
