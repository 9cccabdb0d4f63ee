import TableTypes.Proofs.Unicode.CodeRanges
import TableTypes.Unicode.CaseMapping
import TableTypes.Unicode.Numeric

/-!
# Characters in another case

The upper case and the lower case of a letter are texts that begin with a letter. They
are never a longer text that begins with the letter itself, so that a case mapping that
keeps the first character of a letter keeps the letter.
-/

namespace TableTypes
namespace Unicode

/-! ## Letters -/

/-- The code points of letters, ASCII included. -/
def letterRanges : CodeRanges :=
  (0x41, 0x5A) :: (0x61, 0x7A) :: alphabeticRanges

theorem ascending_letterRanges : letterRanges.Ascending :=
  CodeRanges.ascending_of_isChain (by decide +kernel)

theorem isAlphabetic_of_contains_letterRanges
    {c : Char}
    (among : letterRanges.contains c.toNat = true) :
    isAlphabetic c = true := by
  simp only [letterRanges, CodeRanges.contains, Bool.and_eq_true, Bool.or_eq_true,
    Nat.ble_eq] at among
  rw [isAlphabetic, Bool.or_eq_true]
  obtain ⟨aboveUpper, belowUpper | ⟨aboveLower, belowLower | inOthers⟩⟩ := among
  · have upper : c.isUpper = true :=
      decide_eq_true
        ⟨UInt32.le_iff_toNat_le.mpr aboveUpper, UInt32.le_iff_toNat_le.mpr belowUpper⟩
    exact Or.inl (Bool.or_eq_true_iff.mpr (Or.inl upper))
  · have lower : c.isLower = true :=
      Bool.and_eq_true_iff.mpr
        ⟨decide_eq_true (UInt32.le_iff_toNat_le.mpr aboveLower),
          decide_eq_true (UInt32.le_iff_toNat_le.mpr belowLower)⟩
    exact Or.inl (Bool.or_eq_true_iff.mpr (Or.inr lower))
  · exact Or.inr inOthers

/-- A code point in the ranges of letters is that of a letter. -/
theorem isAlphabetic_ofNat
    {range : Nat × Nat}
    (member : range ∈ letterRanges)
    {code : Nat}
    (above : range.1 ≤ code)
    (below : code ≤ range.2) :
    isAlphabetic (Char.ofNat code) = true := by
  have bounds : letterRanges.all (fun range =>
      range.2 < 0xD800 || 0xDFFF < range.1 && range.2 < 0x110000) = true := by
    decide +kernel
  have outside := List.all_eq_true.mp bounds range member
  have valid : code.isValidChar := by
    simp only [Bool.or_eq_true, Bool.and_eq_true, decide_eq_true_eq] at outside
    rcases outside with low | ⟨high, inside⟩
    · exact Or.inl (by omega)
    · exact Or.inr ⟨by omega, by omega⟩
  have sameCode : (Char.ofNat code).toNat = code := by
    rw [Char.ofNat, dif_pos valid]
    rfl
  refine isAlphabetic_of_contains_letterRanges ?_
  rw [sameCode]
  exact CodeRanges.contains_of_mem ascending_letterRanges member above below

theorem isAlphanumeric_of_isAlphabetic
    {c : Char}
    (alphabetic : isAlphabetic c = true) :
    isAlphanumeric c = true := by
  rw [isAlphanumeric, alphabetic, Bool.true_or]

/-! ## Runs of mappings -/

namespace CaseRun

/-- Code points in a row are those of letters that have another case. The places are
where such letters stand close together. -/
def areLetters (first last : Nat) : Bool :=
  CodeRanges.coversFrom [630, 567, 483, 430, 410, 385, 350, 308, 290, 275, 200, 12, 0]
    letterRanges first last

/-- A run maps its code points to those of letters. -/
def reachesLetters (run : CaseRun) : Bool :=
  areLetters (run.first + run.shift).toNat (run.last + run.shift).toNat
    || (List.range ((run.last - run.first) / run.step + 1)).all fun index =>
      let image := ((run.first + index * run.step : Nat) + run.shift).toNat
      areLetters image image

/-- What a run maps is a letter afterwards. -/
theorem isAlphabetic_of_reachesLetters
    {run : CaseRun}
    (reaches : run.reachesLetters = true)
    {code : Nat}
    (above : run.first ≤ code)
    (below : code ≤ run.last)
    (onStep : (code - run.first) % run.step = 0) :
    isAlphabetic (Char.ofNat (code + run.shift).toNat) = true := by
  rw [reachesLetters, Bool.or_eq_true, List.all_eq_true] at reaches
  rcases reaches with whole | each
  · obtain ⟨range, member, low, high⟩ := CodeRanges.exists_range_of_coversFrom whole
    exact isAlphabetic_ofNat member (by omega) (by omega)
  · have within : (code - run.first) / run.step <
        (run.last - run.first) / run.step + 1 :=
      Nat.lt_succ_of_le (Nat.div_le_div_right (by omega))
    have stepped : run.first + (code - run.first) / run.step * run.step = code := by
      rw [Nat.div_mul_cancel (Nat.dvd_of_mod_eq_zero onStep)]
      omega
    have covered := each _ (List.mem_range.mpr within)
    rw [stepped] at covered
    obtain ⟨range, member, low, high⟩ := CodeRanges.exists_range_of_coversFrom covered
    exact isAlphabetic_ofNat member low high

/-- A code point is left as it is, or it becomes that of a letter. -/
theorem image_eq_or_isAlphabetic
    {runs : List CaseRun}
    (reach : ∀ run ∈ runs, run.reachesLetters = true)
    (code : Nat) :
    image runs code = code ∨ isAlphabetic (Char.ofNat (image runs code)) = true := by
  induction runs with
  | nil => exact Or.inl rfl
  | cons run rest inductionHypothesis =>
      obtain ⟨runReaches, restReach⟩ := List.forall_mem_cons.mp reach
      rw [image]
      split
      next => exact Or.inl rfl
      next notBelow =>
        split
        next => exact inductionHypothesis restReach
        next notAbove =>
          split
          next onStep =>
            exact Or.inr (isAlphabetic_of_reachesLetters runReaches (by omega)
              (by omega) onStep)
          next => exact Or.inl rfl

end CaseRun

/-- The mappings to upper case and to lower case end at letters. -/
theorem reachesLetters_of_mem_runs :
    ∀ run ∈ upperRuns ++ lowerRuns, run.reachesLetters = true := by
  have all : (upperRuns ++ lowerRuns).all CaseRun.reachesLetters = true := by
    decide +kernel
  exact List.all_eq_true.mp all

/-! ## Forms of a character -/

/-- A text that can stand in the place of a character after a change of case. -/
structure IsFormOf (c : Char) (form : List Char) : Prop where
  ne_nil : form ≠ []
  eq_singleton : form.head? = some c -> form = [c]
  startsAlphanumeric :
    isAlphanumeric c = true -> form.head?.any isAlphanumeric = true
  eq_lowLine : c = '_' -> form = ['_']

/-- One character can stand in the place of another when letters and digits remain such
characters. -/
theorem isFormOf_singleton
    {c other : Char}
    (keepsKind : isAlphanumeric c = true -> isAlphanumeric other = true)
    (keepsLowLine : c = '_' -> other = '_') :
    IsFormOf c [other] where
  ne_nil := List.cons_ne_nil other []
  eq_singleton := fun same => congrArg (· :: []) (Option.some.inj same)
  startsAlphanumeric := keepsKind
  eq_lowLine := fun isLowLine => congrArg (· :: []) (keepsLowLine isLowLine)

theorem isFormOf_image
    {runs : List CaseRun}
    (known : runs ⊆ upperRuns ++ lowerRuns)
    {c : Char}
    (notAscii : ¬ c.toNat < 128) :
    IsFormOf c [Char.ofNat (CaseRun.image runs c.toNat)] := by
  refine isFormOf_singleton (fun alphanumeric => ?_) ?_
  · have reach : ∀ run ∈ runs, run.reachesLetters = true :=
      fun run member => reachesLetters_of_mem_runs run (known member)
    rcases CaseRun.image_eq_or_isAlphabetic reach c.toNat with same | letter
    · rw [same, Char.ofNat_toNat]
      exact alphanumeric
    · exact isAlphanumeric_of_isAlphabetic letter
  · rintro rfl
    exact absurd (by decide) notAscii

/-- A sequence of upper case begins with a letter other than the character itself. -/
theorem isFormOf_of_mem_upperSequences
    {c : Char}
    {codes : List Nat}
    (member : (c.toNat, codes) ∈ upperSequences) :
    IsFormOf c (codes.map Char.ofNat) := by
  have all : upperSequences.all (fun (code, codes) => 128 ≤ code &&
      (codes.map Char.ofNat).head?.any fun first =>
        isAlphanumeric first && first.toNat != code) = true := by
    decide +kernel
  have checked := List.all_eq_true.mp all _ member
  rw [Bool.and_eq_true, decide_eq_true_eq] at checked
  obtain ⟨notAscii, begins⟩ := checked
  cases codes with
  | nil => cases begins
  | cons first rest =>
      rw [List.map_cons, List.head?_cons, Option.any_some, Bool.and_eq_true,
        bne_iff_ne] at begins
      constructor
      case ne_nil => exact List.cons_ne_nil _ _
      case eq_singleton =>
        intro same
        exact absurd (congrArg Char.toNat (Option.some.inj same)) begins.2
      case startsAlphanumeric => exact fun _ => begins.1
      case eq_lowLine =>
        rintro rfl
        exact absurd notAscii (by decide)

/-- ASCII letters and digits remain such characters. -/
theorem isAlphanumeric_ascii :
    ∀ code < 128, isAlphanumeric (Char.ofNat code) = true ->
      isAlphanumeric (Char.ofNat code).toUpper = true ∧
        isAlphanumeric (Char.ofNat code).toLower = true := by
  decide +kernel

theorem isFormOf_upperForm (c : Char) : IsFormOf c (upperForm c) := by
  rw [upperForm]
  by_cases ascii : c.toNat < 128
  · rw [if_pos ascii]
    refine isFormOf_singleton (fun alphanumeric => ?_) (by rintro rfl; rfl)
    have both := isAlphanumeric_ascii c.toNat ascii
    rw [Char.ofNat_toNat] at both
    exact (both alphanumeric).1
  · rw [if_neg ascii]
    cases found : upperSequences.lookup c.toNat with
    | none => exact isFormOf_image (List.subset_append_left _ _) ascii
    | some codes =>
        obtain ⟨_, _, split, _⟩ := List.lookup_eq_some_iff.mp found
        exact isFormOf_of_mem_upperSequences (by rw [split]; simp)

theorem isFormOf_lowerForm (c : Char) : IsFormOf c (lowerForm c) := by
  rw [lowerForm]
  by_cases ascii : c.toNat < 128
  · rw [if_pos ascii]
    refine isFormOf_singleton (fun alphanumeric => ?_) (by rintro rfl; rfl)
    have both := isAlphanumeric_ascii c.toNat ascii
    rw [Char.ofNat_toNat] at both
    exact (both alphanumeric).2
  · rw [if_neg ascii]
    by_cases dotted : c = '\u0130'
    · rw [if_pos dotted, dotted]
      exact ⟨by decide, by decide, fun _ => by decide, by decide⟩
    · rw [if_neg dotted]
      exact isFormOf_image (List.subset_append_right _ _) ascii

/-! ## Forms of a text -/

/-- A text in lower case is made of forms of its characters. -/
theorem exists_forms_lowercaseAfter (before text : List Char) :
    ∃ forms, List.Forall₂ IsFormOf text forms ∧
      lowercaseAfter before text = forms.flatten := by
  induction text generalizing before with
  | nil => exact ⟨[], List.Forall₂.nil, rfl⟩
  | cons c rest inductionHypothesis =>
      obtain ⟨forms, areForms, written⟩ := inductionHypothesis (c :: before)
      rw [lowercaseAfter, written]
      refine ⟨_ :: forms, List.Forall₂.cons ?_ areForms, rfl⟩
      split
      next isSigma =>
        rw [isSigma]
        split
        · exact isFormOf_singleton (fun _ => by decide) (by decide)
        · exact isFormOf_singleton (fun _ => by decide) (by decide)
      next => exact isFormOf_lowerForm c

end Unicode
end TableTypes
