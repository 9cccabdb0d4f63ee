import TableTypes.Proofs.Script.Identifier
import TableTypes.Proofs.Unicode.IdentifierClasses

/-!
# Names of scripts

The language of the script has its own classes of characters for names. A name that is
printed without quotes is judged by letters and numbers instead. The two agree but for
the characters that are foreign to identifiers, and for the marks that count as letters:
no name may start with a mark.
-/

namespace TableTypes
namespace Script

/-- A name of the language may start with the character. -/
def startsScriptName (c : Char) : Bool :=
  Unicode.isIdStart c || c = '_' || c = '$'

/-- A name of the language may go on with the character. -/
def continuesScriptName (c : Char) : Bool :=
  Unicode.isIdContinue c || c = '$'

/-- The language takes the text for a name. -/
def spellsScriptName : List Char -> Bool
  | [] => false
  | first :: rest => startsScriptName first && rest.all continuesScriptName

/-- The language takes the name without quotes. -/
def isScriptName (name : String) : Bool :=
  spellsScriptName name.toList

/-- A mark that counts as a letter although no name of the language starts with it. -/
def isLetterMark (c : Char) : Bool :=
  Unicode.isAlphabetic c && Unicode.isMark c && !Unicode.isIdStart c

/-- What a text needs to be a name of the language, besides being an identifier: it has no
foreign character and does not start with a mark that counts as a letter. -/
def IsNative (text : List Char) : Prop :=
  (∀ c ∈ text, Unicode.isForeign c = false) ∧
    ∀ first ∈ text.head?, isLetterMark first = false

instance (text : List Char) : Decidable (IsNative text) :=
  decidable_of_iff
    ((text.all fun c => !Unicode.isForeign c) && text.head?.all fun c => !isLetterMark c)
    (by simp [IsNative, Option.all_eq_true])

theorem isNative_cons (first : Char) (rest : List Char) :
    IsNative (first :: rest) ↔
      (Unicode.isForeign first = false ∧ isLetterMark first = false) ∧
        ∀ c ∈ rest, Unicode.isForeign c = false := by
  rw [IsNative, List.forall_mem_cons]
  simp only [List.head?_cons, Option.mem_some_iff, forall_eq']
  exact and_right_comm

/-! ## Characters -/

theorem isForeign_eq_false_of_continuesScriptName
    {c : Char}
    (continues : continuesScriptName c = true) :
    Unicode.isForeign c = false := by
  rw [continuesScriptName, Bool.or_eq_true, decide_eq_true_eq] at continues
  rcases continues with native | rfl
  · refine eq_false_of_ne_true fun foreign => ?_
    simp [Unicode.isIdContinue_eq_false_of_isForeign foreign] at native
  · decide

/-- A character of an identifier may stand in a name of the language, unless it is
foreign. -/
theorem continuesScriptName_iff
    {c : Char}
    (continues : continuesIdentifier c = true) :
    continuesScriptName c = true ↔ Unicode.isForeign c = false := by
  refine ⟨isForeign_eq_false_of_continuesScriptName, fun native => ?_⟩
  rw [continuesScriptName, Bool.or_eq_true, decide_eq_true_eq]
  simp only [continuesIdentifier, Unicode.isAlphanumeric, Bool.or_eq_true,
    decide_eq_true_eq] at continues
  rcases continues with ((alphabetic | numeric) | rfl) | dollar
  · refine Or.inl ?_
    simp only [Unicode.isIdContinue, Bool.or_eq_true]
    rcases Unicode.isAlphabetic_cases alphabetic with starts | mark | foreign
    · exact Or.inl (Or.inl (Or.inl starts))
    · exact Or.inl (Or.inl (Or.inr mark))
    · simp [foreign] at native
  · refine Or.inl ((Unicode.isNumeric_cases numeric).resolve_right fun foreign => ?_)
    simp [foreign] at native
  · exact Or.inl (by decide)
  · exact Or.inr dollar

theorem continuesScriptName_of_starts
    {c : Char}
    (starts : startsScriptName c = true) :
    continuesScriptName c = true := by
  simp only [startsScriptName, Bool.or_eq_true, decide_eq_true_eq] at starts
  rcases starts with (starts | rfl) | rfl
  · simp [continuesScriptName, Unicode.isIdContinue, starts]
  · decide
  · decide

/-- What starts a name of the language is no mark that merely counts as a letter. -/
theorem isLetterMark_eq_false_of_startsScriptName
    {c : Char}
    (starts : startsScriptName c = true) :
    isLetterMark c = false := by
  simp only [startsScriptName, Bool.or_eq_true, decide_eq_true_eq] at starts
  rcases starts with (starts | rfl) | rfl
  · simp [isLetterMark, starts]
  · decide
  · decide

/-- What starts an identifier may start a name of the language, unless it is foreign or a
mark. -/
theorem startsScriptName_iff
    {c : Char}
    (starts : startsIdentifier c = true) :
    startsScriptName c = true ↔
      Unicode.isForeign c = false ∧ isLetterMark c = false := by
  constructor
  · intro startsName
    exact ⟨isForeign_eq_false_of_continuesScriptName (continuesScriptName_of_starts startsName),
      isLetterMark_eq_false_of_startsScriptName startsName⟩
  · rintro ⟨native, noMark⟩
    simp only [startsIdentifier, Bool.or_eq_true, decide_eq_true_eq] at starts
    simp only [startsScriptName, Bool.or_eq_true, decide_eq_true_eq]
    rcases starts with (alphabetic | lowLine) | dollar
    · refine Or.inl (Or.inl ?_)
      rcases Unicode.isAlphabetic_cases alphabetic with idStart | mark | foreign
      · exact idStart
      · simpa [isLetterMark, alphabetic, mark] using noMark
      · simp [foreign] at native
    · exact Or.inl (Or.inr lowLine)
    · exact Or.inr dollar

/-! ## Names -/

/-- An identifier is a name of the language exactly when it is native. -/
theorem spellsScriptName_iff
    {text : List Char}
    (spells : spellsIdentifier text = true) :
    spellsScriptName text = true ↔ IsNative text := by
  cases text with
  | nil => cases spells
  | cons first rest =>
      rw [spellsIdentifier, Bool.and_eq_true, List.all_eq_true] at spells
      obtain ⟨starts, continues⟩ := spells
      have restNative : (∀ c ∈ rest, continuesScriptName c = true) ↔
          ∀ c ∈ rest, Unicode.isForeign c = false :=
        forall₂_congr fun c member => continuesScriptName_iff (continues c member)
      rw [spellsScriptName, Bool.and_eq_true, List.all_eq_true, startsScriptName_iff starts,
        restNative, isNative_cons]

/-- A low line at the end makes no difference to a name. -/
theorem spellsScriptName_append_lowLine
    {text : List Char}
    (nonempty : text ≠ []) :
    spellsScriptName (text ++ ['_']) = spellsScriptName text := by
  cases text with
  | nil => exact absurd rfl nonempty
  | cons first rest =>
      have lowLine : continuesScriptName '_' = true := by decide
      simp [spellsScriptName, lowLine]

/-! ## Repaired names -/

/-- A mended character is the character itself, or a low line for what is neither a letter
nor a number. -/
theorem mended_cases (c : Char) :
    mended c = c ∨ mended c = '_' ∧ Unicode.isAlphanumeric c = false := by
  unfold mended
  split
  next => exact Or.inl rfl
  next replaced =>
    rw [Bool.or_eq_true, not_or] at replaced
    exact Or.inr ⟨rfl, eq_false_of_ne_true replaced.1⟩

theorem isForeign_eq_false_of_not_isAlphanumeric
    {c : Char}
    (other : Unicode.isAlphanumeric c = false) :
    Unicode.isForeign c = false := by
  refine eq_false_of_ne_true fun foreign => ?_
  simp [Unicode.isAlphanumeric_of_isForeign foreign] at other

/-- A repair keeps foreign characters and no other that a name cannot have. -/
theorem continuesScriptName_mended_iff (c : Char) :
    continuesScriptName (mended c) = true ↔ Unicode.isForeign c = false := by
  rcases mended_cases c with same | ⟨lowLine, other⟩
  · have continues := continuesIdentifier_mended c
    rw [same] at continues ⊢
    exact continuesScriptName_iff continues
  · rw [lowLine, isForeign_eq_false_of_not_isAlphanumeric other]
    decide

/-- The repaired text is a name of the language exactly when the text is native. -/
theorem spellsScriptName_repair_iff (text : List Char) :
    spellsScriptName (repair text) = true ↔ IsNative text := by
  cases text with
  | nil => decide
  | cons first rest =>
      have restNative : (rest.map mended).all continuesScriptName = true ↔
          ∀ c ∈ rest, Unicode.isForeign c = false := by
        rw [List.all_map, List.all_eq_true]
        exact forall₂_congr fun c _ => continuesScriptName_mended_iff c
      rw [repair_cons, isNative_cons]
      split
      next starts =>
        rw [spellsScriptName, Bool.and_eq_true, restNative]
        refine and_congr_left fun _ => ?_
        rcases mended_cases first with same | ⟨lowLine, other⟩
        · rw [same] at starts ⊢
          exact startsScriptName_iff starts
        · have native := isForeign_eq_false_of_not_isAlphanumeric other
          rw [Unicode.isAlphanumeric, Bool.or_eq_false_iff] at other
          simp [lowLine, native, isLetterMark, other.1, startsScriptName]
      next cannotStart =>
        have notAlphabetic : Unicode.isAlphabetic first = false := by
          refine eq_false_of_ne_true fun alphabetic => cannotStart ?_
          have kept : mended first = first :=
            if_pos (by simp [Unicode.isAlphanumeric, alphabetic])
          simp [kept, startsIdentifier, alphabetic]
        rw [spellsScriptName, List.all_cons, Bool.and_eq_true, Bool.and_eq_true, restNative,
          continuesScriptName_mended_iff]
        simp [startsScriptName, isLetterMark, notAlphabetic]

/-! ## Bare names -/

/-- A name that is printed without quotes is a name of the language exactly when it is
native: this holds of a key and of a declared name. -/
theorem isScriptName_iff_isNative (name : String) :
    (isIdentifier name = true ->
      key name = name ∧ (isScriptName name = true ↔ IsNative name.toList)) ∧
      (isScriptName (declaredName name) = true ↔ IsNative name.toList) := by
  refine ⟨fun identifier => ⟨if_pos identifier, spellsScriptName_iff identifier⟩, ?_⟩
  rw [declaredName]
  cases identifier : isIdentifier name with
  | false =>
      rw [if_neg Bool.false_ne_true, isScriptName, String.toList_ofList]
      exact spellsScriptName_repair_iff name.toList
  | true =>
      have nonempty : name.toList ≠ [] := by
        intro empty
        rw [isIdentifier, empty] at identifier
        cases identifier
      rw [if_pos rfl]
      split
      · have appended : isScriptName (name ++ "_") = isScriptName name := by
          rw [isScriptName, String.toList_append]
          exact spellsScriptName_append_lowLine nonempty
        rw [appended]
        exact spellsScriptName_iff identifier
      · exact spellsScriptName_iff identifier

/-- An accented name is printed as it stands and is a name of the language. -/
theorem accented_isScriptName :
    isIdentifier "größe" = true ∧ key "größe" = "größe" ∧ isScriptName "größe" = true := by
  have accepted : isIdentifier "größe" = true := by decide +kernel
  obtain ⟨bare, native⟩ := (isScriptName_iff_isNative "größe").1 accepted
  exact ⟨accepted, bare, native.mpr (by decide +kernel)⟩

/-- A superscript, a circled letter and a vowel sign in front are printed without quotes
although the language takes none of the names. -/
theorem superscript_not_isScriptName :
    (isIdentifier "a²" = true ∧ key "a²" = "a²" ∧ declaredName "a²" = "a²" ∧
      isScriptName "a²" = false) ∧
      (isIdentifier "Ⓐ" = true ∧ isScriptName "Ⓐ" = false) ∧
      isIdentifier "\u0903a" = true ∧ isScriptName "\u0903a" = false := by
  decide +kernel

end Script
end TableTypes
