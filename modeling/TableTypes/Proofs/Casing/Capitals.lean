import Mathlib.Data.List.Chain
import TableTypes.Proofs.Casing.AsciiNames

/-!
# Capitals of ASCII names

A text of ASCII letters and digits is its own spelling exactly when its capitals are
where words start: its first character has the case for its place, and a capital after
a capital stands before a lower case letter. Every spelling is such a text but for the
capitals that came to stand side by side when separators were dropped.
-/

namespace TableTypes
namespace Casing

/-- A capital after a capital starts a word: a lower case letter follows it. -/
def CapitalsStartWords (text : List Char) : Prop :=
  ∀ first second after,
    first :: second :: after <:+ text ->
      first.isUpper = true -> second.isUpper = true ->
        after.head?.any Char.isLower = true

/-- The capitals of a text are where a casing puts them. -/
def KeepsCapitals (casing : Casing) (text : List Char) : Prop :=
  casing = .verbatim ∨
    (casing = .camel -> text.head?.any Char.isUpper = false) ∧ CapitalsStartWords text

theorem capitalsStartWords_cons_cons (first second : Char) (after : List Char) :
    CapitalsStartWords (first :: second :: after) ↔
      (first.isUpper = true -> second.isUpper = true ->
        after.head?.any Char.isLower = true) ∧
      CapitalsStartWords (second :: after) := by
  constructor
  · intro settled
    exact ⟨settled first second after (List.suffix_refl _),
      fun other next later suffix =>
        settled other next later (suffix.trans (List.suffix_cons first _))⟩
  · rintro ⟨here, settled⟩ other next later suffix
    rcases List.suffix_cons_iff.mp suffix with same | suffix
    · cases same
      exact here
    · exact settled other next later suffix

/-- No lower case letter follows a digit. -/
def NoLowerAfterDigit (text : List Char) : Prop :=
  text.IsChain fun first second => first.isDigit = true -> second.isLower = false

/-- A character is its own upper case exactly when it is no lower case letter. -/
theorem toUpper_eq_self_iff (c : Char) : c.toUpper = c ↔ c.isLower = false := by
  constructor
  · intro same
    rw [← same]
    exact Char.isLower_toUpper_eq_false c
  · intro notLower
    exact Char.toUpper_eq_of_not_isLower (by simp [notLower])

/-- A character is its own lower case exactly when it is no capital. -/
theorem toLower_eq_self_iff (c : Char) : c.toLower = c ↔ c.isUpper = false := by
  constructor
  · intro same
    rw [← same]
    exact Char.isUpper_toLower_eq_false c
  · intro notUpper
    exact Char.toLower_eq_of_not_isUpper (by simp [notUpper])

/-- Upper case makes no digit and takes none. -/
theorem isDigit_toUpper (c : Char) : c.toUpper.isDigit = c.isDigit := by
  cases lower : c.isLower with
  | false => rw [(toUpper_eq_self_iff c).mpr lower]
  | true =>
      have raised : c.toUpper.isUpper = true := by simp [Char.isAlpha, lower]
      rw [isUpper_eq, decide_eq_true_eq] at raised
      rw [isLower_eq, decide_eq_true_eq] at lower
      rw [isDigit_eq, isDigit_eq, raised, lower]
      rfl

/-- Lower case makes no digit and takes none. -/
theorem isDigit_toLower (c : Char) : c.toLower.isDigit = c.isDigit := by
  rw [← isDigit_toUpper c.toLower, Char.toUpper_toLower_eq_toUpper, isDigit_toUpper]

/-- The letters and digits that a spelling keeps are ASCII characters. -/
theorem isAscii_of_all_isAlphanum
    {text : List Char}
    (kept : text.all Char.isAlphanum = true) :
    IsAscii text :=
  fun c member => Unicode.toNat_lt_of_isAlphanum (List.all_eq_true.mp kept c member)

theorem kindOf_ne_other (c : Char) : kindOf c ≠ .other := by
  unfold kindOf
  split_ifs <;> exact ClusterKind.noConfusion

/-- A letter or digit after another keeps its case exactly when it does not follow a
capital as one that no lower case letter follows. -/
theorem cased_eq_self_iff
    {first second : Char}
    (firstKept : first.isAlphanum = true)
    (secondKept : second.isAlphanum = true)
    (notLower : first.isDigit = true -> second.isLower = false)
    (after : List Char) :
    (if wordEndsAfter first (second :: after) then second.toUpper else second.toLower) =
        second ↔
      (first.isUpper = true -> second.isUpper = true ->
        after.head?.any Char.isLower = true) := by
  rw [apply_ite (· = second), toUpper_eq_self_iff, toLower_eq_self_iff]
  simp only [wordEndsAfter, wordEnds, changesKind]
  simp only [isUpper_eq, isLower_eq, isDigit_eq, isAlphanum_eq]
    at firstKept secondKept notLower ⊢
  have ofFirst := kindOf_ne_other first
  generalize kindOf first = firstKind at ofFirst firstKept notLower ⊢
  generalize kindOf second = secondKind at secondKept notLower ⊢
  generalize after.head?.any Char.isLower = lowerFollows
  cases firstKind <;> cases secondKind <;> simp_all

/-- The capitals of the text after a letter or digit start words exactly when the text is
its own spelling there. -/
theorem spell_after_eq_self_iff
    {c : Char}
    {rest : List Char}
    (kept : (c :: rest).all Char.isAlphanum = true)
    (noLower : NoLowerAfterDigit (c :: rest)) :
    spell (wordEndsAfter c rest) rest = rest ↔ CapitalsStartWords (c :: rest) := by
  induction rest generalizing c with
  | nil =>
      refine iff_of_true rfl fun first second after suffix => ?_
      have short := suffix.length_le
      simp at short
  | cons second after inductionHypothesis =>
      obtain ⟨notLower, restNoLower⟩ := List.isChain_cons_cons.mp noLower
      rw [List.all_cons, Bool.and_eq_true] at kept
      have secondKept := kept.2
      rw [List.all_cons, Bool.and_eq_true] at secondKept
      rw [spell_of_kept secondKept.1, List.cons.injEq, capitalsStartWords_cons_cons,
        cased_eq_self_iff kept.1 secondKept.1 notLower after,
        inductionHypothesis kept.2 restNoLower]

/-- A text of ASCII letters and digits is its own spelling exactly when its first
character has the case for its place and its capitals start words. -/
theorem spell_eq_self_iff
    {text : List Char}
    (kept : text.all Char.isAlphanum = true)
    (noLower : NoLowerAfterDigit text)
    (starts : Bool) :
    spell starts text = text ↔
      text.head?.any (if starts then Char.isLower else Char.isUpper) = false ∧
        CapitalsStartWords text := by
  cases text with
  | nil =>
      refine iff_of_true rfl ⟨rfl, fun first second after suffix => ?_⟩
      cases List.suffix_nil.mp suffix
  | cons c rest =>
      have headKept := kept
      rw [List.all_cons, Bool.and_eq_true] at headKept
      rw [spell_of_kept headKept.1, List.cons.injEq,
        spell_after_eq_self_iff kept noLower, List.head?_cons, Option.any_some]
      cases starts with
      | false => exact and_congr_left' (toLower_eq_self_iff c)
      | true => exact and_congr_left' (toUpper_eq_self_iff c)

/-! ## Emitted names -/

/-- A spelling is made of letters and digits. -/
theorem all_isAlphanum_spell (starts : Bool) (name : List Char) :
    (spell starts name).all Char.isAlphanum = true := by
  induction name generalizing starts with
  | nil => rfl
  | cons c rest inductionHypothesis =>
      cases kept : c.isAlphanum with
      | false => rw [spell_of_separator kept, inductionHypothesis]
      | true =>
          rw [spell_of_kept kept, List.all_cons, inductionHypothesis, Bool.and_true]
          unfold Char.isAlphanum at kept ⊢
          cases starts with
          | false =>
              rw [if_neg Bool.false_ne_true, Char.isAlpha_toLower_eq_isAlpha,
                isDigit_toLower, kept]
          | true =>
              rw [if_pos rfl, Char.isAlpha_toUpper_eq_isAlpha, isDigit_toUpper, kept]

/-- A spelling that starts with a word does not start with a lower case letter. -/
theorem head?_spell_true (name : List Char) :
    (spell true name).head?.any Char.isLower = false := by
  induction name with
  | nil => rfl
  | cons c rest inductionHypothesis =>
      cases kept : c.isAlphanum with
      | false =>
          rw [spell_of_separator kept]
          exact inductionHypothesis
      | true =>
          rw [spell_of_kept kept]
          exact Char.isLower_toUpper_eq_false c

/-- What is spelled after a digit does not start with a lower case letter, since a letter
starts a word there. -/
theorem head?_spell_after_digit
    {c : Char}
    (isDigit : c.isDigit = true)
    (rest : List Char) :
    (spell (wordEndsAfter c rest) rest).head?.any Char.isLower = false := by
  cases rest with
  | nil => rfl
  | cons next following =>
      cases kept : next.isAlphanum with
      | false =>
          rw [spell_of_separator kept]
          exact head?_spell_true following
      | true =>
          rw [spell_of_kept kept, List.head?_cons, Option.any_some]
          cases ends : wordEndsAfter c (next :: following) with
          | true => exact Char.isLower_toUpper_eq_false next
          | false =>
              simp only [wordEndsAfter, wordEnds, changesKind, isDigit, Bool.true_and,
                Bool.or_eq_false_iff] at ends
              obtain ⟨⟨_, _, notLower, notUpper⟩, _⟩ := ends
              rw [if_neg Bool.false_ne_true, (toLower_eq_self_iff next).mpr notUpper]
              exact notLower

/-- In a spelling no lower case letter follows a digit. -/
theorem noLowerAfterDigit_spell (starts : Bool) (name : List Char) :
    NoLowerAfterDigit (spell starts name) := by
  induction name generalizing starts with
  | nil => exact List.isChain_nil
  | cons c rest inductionHypothesis =>
      cases kept : c.isAlphanum with
      | false =>
          rw [spell_of_separator kept]
          exact inductionHypothesis true
      | true =>
          rw [spell_of_kept kept]
          refine List.isChain_cons.mpr ⟨fun next isNext isDigit => ?_,
            inductionHypothesis _⟩
          have digit : c.isDigit = true := by
            cases starts with
            | false => rwa [if_neg Bool.false_ne_true, isDigit_toLower] at isDigit
            | true => rwa [if_pos rfl, isDigit_toUpper] at isDigit
          have notLower := head?_spell_after_digit digit rest
          rw [Option.mem_def.mp isNext] at notLower
          exact notLower

end Casing
end TableTypes
