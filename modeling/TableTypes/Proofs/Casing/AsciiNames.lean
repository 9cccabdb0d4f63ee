import Mathlib
import TableTypes.Casing

/-!
# Casing of ASCII names

In a name of ASCII characters every character is judged by its neighbours alone. Pascal
case keeps the letters and the digits in order, and a letter becomes a capital exactly
when it starts a word. Camel case differs in the first character only. So no letter and
no digit is lost, and what coincides in camel case coincides in Pascal case.
-/

namespace TableTypes
namespace Casing

/-- Every character of a text is one of the first 128. -/
def IsAscii (text : List Char) : Prop :=
  ∀ c ∈ text, c.toNat < 128

instance (text : List Char) : Decidable (IsAscii text) :=
  decidable_of_iff (text.all fun c => c.toNat < 128) (by simp [IsAscii])

/-- What holds of the first 128 characters holds of every ASCII character. -/
theorem forall_ascii
    (property : Char -> Prop)
    (holds : ∀ code < 128, property (Char.ofNat code))
    (c : Char)
    (ascii : c.toNat < 128) : property c := by
  have atCode := holds c.toNat ascii
  rwa [Char.ofNat_toNat] at atCode

/-! ## The rule of the neighbours -/

/-- Two neighbours rise from lower case to upper case, or letters meet digits between
them. -/
def changesKind (first second : Char) : Bool :=
  first.isLower && (second.isUpper || second.isDigit)
    || first.isUpper && second.isDigit
    || first.isDigit && (second.isLower || second.isUpper)

/-- A word ends between two neighbours, given what follows them. -/
def wordEnds (first second : Char) (next : Option Char) : Bool :=
  !first.isAlphanum || changesKind first second
    || first.isUpper && second.isUpper && next.any Char.isLower

/-- The character at a position starts a word: it is the first of the name, or a word
ends in front of it. -/
def startsWord (name : List Char) : Nat -> Bool
  | 0 => true
  | before + 1 =>
      match name[before]?, name[before + 1]? with
      | some first, some second => wordEnds first second name[before + 2]?
      | _, _ => false

/-- What a position of a name contributes to its Pascal case. -/
def pascalAt (name : List Char) (position : Nat) : Option Char :=
  name[position]?.bind fun c =>
    if c.isAlphanum then some (if startsWord name position then c.toUpper else c.toLower)
    else none

/-- A word ends after a character, given what follows it. -/
def wordEndsAfter (c : Char) : List Char -> Bool
  | [] => false
  | next :: following => wordEnds c next following.head?

/-- The letters and the digits of a text, with capitals where words start. The first
character starts a word when `starts` says so. -/
def spell (starts : Bool) : List Char -> List Char
  | [] => []
  | c :: rest =>
      let others := spell (wordEndsAfter c rest) rest
      if c.isAlphanum then
        (if starts then c.toUpper else c.toLower) :: others
      else others

theorem spell_of_kept
    {c : Char}
    (kept : c.isAlphanum = true)
    (starts : Bool)
    (rest : List Char) :
    spell starts (c :: rest) =
      (if starts then c.toUpper else c.toLower) :: spell (wordEndsAfter c rest) rest := by
  rw [spell, kept]
  rfl

/-- A separator leaves nothing but the start of a word behind it. -/
theorem spell_of_separator
    {c : Char}
    (dropped : c.isAlphanum = false)
    (starts : Bool)
    (rest : List Char) :
    spell starts (c :: rest) = spell true rest := by
  have ends : rest = [] ∨ wordEndsAfter c rest = true := by
    cases rest with
    | nil => exact Or.inl rfl
    | cons next following =>
        exact Or.inr (by simp [wordEndsAfter, wordEnds, dropped])
  rw [spell, dropped]
  rcases ends with rfl | ends
  · rfl
  · rw [ends]
    rfl

/-- A word ends in front of a position as its two neighbours and the next character say. -/
theorem startsWord_append
    (before : List Char)
    (c : Char)
    (rest : List Char) :
    startsWord (before ++ c :: rest) (before.length + 1) = wordEndsAfter c rest := by
  unfold startsWord
  cases rest with
  | nil => simp [wordEndsAfter]
  | cons next following =>
      have third : (before ++ c :: next :: following)[before.length + 2]? =
          following.head? := by
        rw [List.getElem?_append_right (by omega), List.head?_eq_getElem?]
        simp
      simp [wordEndsAfter, third]

/-- The positions of a text contribute its spelling, whatever stands before it. -/
theorem filterMap_pascalAt_range' (before text : List Char) :
    (List.range' before.length text.length).filterMap (pascalAt (before ++ text)) =
      spell (startsWord (before ++ text) before.length) text := by
  induction text generalizing before with
  | nil => rfl
  | cons c rest inductionHypothesis =>
      have later := inductionHypothesis (before ++ [c])
      rw [List.length_append, List.length_singleton, List.append_assoc,
        List.singleton_append, startsWord_append] at later
      have here : (before ++ c :: rest)[before.length]? = some c := by simp
      rw [List.length_cons, List.range'_succ, List.filterMap_cons, later, spell, pascalAt,
        here]
      cases kept : c.isAlphanum with
      | false => simp [kept]
      | true => simp [kept]

/-- The positions of a name contribute its spelling. -/
theorem filterMap_pascalAt (name : List Char) :
    (List.range name.length).filterMap (pascalAt name) = spell true name := by
  rw [List.range_eq_range']
  exact filterMap_pascalAt_range' [] name

/-! ## Words of an ASCII name -/

/-- A character as it goes into the splitting of words. -/
def separated (c : Char) : Char :=
  if c.isAlphanum then c else '_'

/-- The kind of an ASCII character. -/
def kindOf (c : Char) : ClusterKind :=
  if c.isUpper then .upper
  else if c.isLower then .lower
  else if c.isDigit then .digit
  else .separator

theorem separate_of_ascii {text : List Char} (ascii : IsAscii text) :
    separate text = text.map separated := by
  have same := forall_ascii (fun c =>
    Unicode.isAlphanumeric c = c.isAlphanum) (by decide +kernel)
  refine List.map_congr_left fun c member => ?_
  rw [same c (ascii c member)]
  rfl

theorem isAscii_separated {text : List Char} (ascii : IsAscii text) :
    IsAscii (text.map separated) := by
  intro other member
  obtain ⟨c, among, rfl⟩ := List.mem_map.mp member
  unfold separated
  split
  · exact ascii c among
  · decide

/-- No two ASCII characters form a cluster. -/
theorem clusters_of_ascii {text : List Char} (ascii : IsAscii text) :
    Unicode.clusters text = text.map ([·]) := by
  have alone : ∀ c, c.toNat < 128 -> Unicode.ClusterRole.ofChar c = .other := by
    intro c below
    rw [Unicode.ClusterRole.ofChar, if_pos (by omega)]
  induction text with
  | nil => rfl
  | cons c rest inductionHypothesis =>
      obtain ⟨headAscii, restAscii⟩ := List.forall_mem_cons.mp ascii
      rw [Unicode.clusters, inductionHypothesis restAscii]
      cases rest with
      | nil => rfl
      | cons next following =>
          simp only [List.map_cons, alone c headAscii,
            alone next (restAscii next List.mem_cons_self)]
          rfl

/-- The kinds of clusters, of an ASCII character alone. -/
theorem ofCluster_separated {c : Char} (ascii : c.toNat < 128) :
    ClusterKind.ofCluster [separated c] = kindOf c :=
  forall_ascii (fun c => ClusterKind.ofCluster [separated c] = kindOf c)
    (by decide +kernel) c ascii

theorem not_cased_of_isDigit {c : Char} (digit : c.isDigit = true) :
    c.isUpper = false ∧ c.isLower = false := by
  simp [Char.isDigit, Char.isUpper, Char.isLower, UInt32.le_iff_toNat_le] at digit ⊢
  omega

theorem isUpper_eq (c : Char) : c.isUpper = decide (kindOf c = .upper) := by
  unfold kindOf
  split_ifs with upper lower digit <;> simp_all

theorem isLower_eq (c : Char) : c.isLower = decide (kindOf c = .lower) := by
  unfold kindOf
  split_ifs with upper lower digit
  case pos => simpa using Char.not_isLower_of_isUpper upper
  all_goals simp_all

theorem isDigit_eq (c : Char) : c.isDigit = decide (kindOf c = .digit) := by
  have uncased := not_cased_of_isDigit (c := c)
  unfold kindOf
  split_ifs with upper lower digit <;> simp_all

theorem isAlphanum_eq (c : Char) : c.isAlphanum = decide (kindOf c ≠ .separator) := by
  unfold kindOf Char.isAlphanum Char.isAlpha
  split_ifs with upper lower digit <;> simp_all

/-- The pairs of kinds between which a word ends. -/
theorem endsWord_eq (first second : ClusterKind) (third : Option ClusterKind) :
    first.endsWord second third =
      (first = .lower && (second = .upper || second = .digit)
        || first = .upper && second = .digit
        || first = .digit && (second = .lower || second = .upper)
        || first = .upper && second = .upper && third = some .lower) := by
  cases first <;> cases second <;> try rfl
  -- Only a run of capitals depends on what follows it.
  cases third with
  | none => rfl
  | some kind => cases kind <;> rfl

/-- Words are split by the kinds of clusters as by the neighbours. -/
theorem cutsAfter_of_ascii
    {c : Char}
    {rest : List Char}
    (ascii : IsAscii (c :: rest))
    (kept : c.isAlphanum = true) :
    cutsAfter [separated c] ((rest.map separated).map ([·])) = wordEndsAfter c rest := by
  obtain ⟨headAscii, restAscii⟩ := List.forall_mem_cons.mp ascii
  cases rest with
  | nil => rfl
  | cons next following =>
      obtain ⟨nextAscii, followingAscii⟩ := List.forall_mem_cons.mp restAscii
      have third : ((following.map separated).map ([·])).head?.map
          ClusterKind.ofCluster = following.head?.map kindOf := by
        cases following with
        | nil => rfl
        | cons later _ =>
            exact congrArg some (ofCluster_separated (followingAscii later
              List.mem_cons_self))
      have nextLower : following.head?.any Char.isLower =
          decide (following.head?.map kindOf = some .lower) := by
        cases following with
        | nil => rfl
        | cons later _ =>
            simp [isLower_eq later]
      rw [List.map_cons, List.map_cons, cutsAfter, endsWord_eq]
      simp only [wordEndsAfter, wordEnds, changesKind, kept, Bool.not_true, Bool.false_or,
        ofCluster_separated headAscii, ofCluster_separated nextAscii, third, nextLower,
        isUpper_eq, isLower_eq, isDigit_eq]

/-- The lower case of ASCII characters, each by itself. -/
theorem lowercase_of_ascii {text : List Char} (ascii : IsAscii text) :
    Unicode.lowercase text = text.map Char.toLower := by
  have alone (before : List Char) :
      Unicode.lowercaseAfter before text = text.map Char.toLower := by
    induction text generalizing before with
    | nil => rfl
    | cons c rest inductionHypothesis =>
        obtain ⟨headAscii, restAscii⟩ := List.forall_mem_cons.mp ascii
        have notSigma : c ≠ 'Σ' := by
          rintro rfl
          exact absurd headAscii (by decide)
        rw [Unicode.lowercaseAfter, if_neg notSigma, Unicode.lowerForm,
          if_pos headAscii, inductionHypothesis restAscii]
        rfl
  exact alone []

/-- A word with its first character in upper case, of ASCII characters. -/
theorem capitalize_of_ascii {c : Char} {rest : List Char} (ascii : IsAscii (c :: rest)) :
    capitalize (c :: rest) = c.toUpper :: rest.map Char.toLower := by
  obtain ⟨headAscii, restAscii⟩ := List.forall_mem_cons.mp ascii
  rw [capitalize, Unicode.upperForm, if_pos headAscii, lowercase_of_ascii restAscii]
  rfl

theorem words_of_ascii {name : List Char} (ascii : IsAscii name) :
    words name = wordsOfClusters ((name.map separated).map ([·])) := by
  rw [words, separate_of_ascii ascii, clusters_of_ascii (isAscii_separated ascii)]

/-- The words of a name with capitals in front spell the name when its first word starts
there, and when its first word has no capital. -/
theorem words_spell {name : List Char} (ascii : IsAscii name) :
    ∃ word others,
      words name = word :: others ∧ IsAscii word ∧
        capitalize word ++ others.flatMap capitalize = spell true name ∧
        Unicode.lowercase word ++ others.flatMap capitalize = spell false name := by
  rw [words_of_ascii ascii]
  induction name with
  | nil => exact ⟨[], [], rfl, by simp [IsAscii], rfl, rfl⟩
  | cons c rest inductionHypothesis =>
      obtain ⟨headAscii, restAscii⟩ := List.forall_mem_cons.mp ascii
      obtain ⟨word, others, split, wordAscii, capital, small⟩ :=
        inductionHypothesis restAscii
      have isSeparator : ClusterKind.ofCluster [separated c] = .separator ↔
          c.isAlphanum = false := by
        rw [ofCluster_separated headAscii, isAlphanum_eq]
        simp
      rw [List.map_cons, List.map_cons, wordsOfClusters]
      cases kept : c.isAlphanum with
      | false =>
          rw [if_pos (isSeparator.mpr kept), split]
          refine ⟨[], word :: others, rfl, by simp [IsAscii], ?_, ?_⟩
          · rw [spell_of_separator kept, ← capital]
            rfl
          · rw [spell_of_separator kept, ← capital]
            rfl
      | true =>
          have asItIs : separated c = c := if_pos kept
          rw [if_neg (by simp [isSeparator, kept]), cutsAfter_of_ascii ascii kept, split,
            asItIs, spell_of_kept kept, spell_of_kept kept]
          cases ends : wordEndsAfter c rest with
          | true =>
              have alone : IsAscii [c] := by simpa [IsAscii] using headAscii
              refine ⟨[c], word :: others, rfl, alone, ?_, ?_⟩
              · rw [capitalize_of_ascii alone, ← capital]
                rfl
              · rw [lowercase_of_ascii alone, ← capital]
                rfl
          | false =>
              have longer : IsAscii (c :: word) :=
                List.forall_mem_cons.mpr ⟨headAscii, wordAscii⟩
              refine ⟨c :: word, others, rfl, longer, ?_, ?_⟩
              · rw [capitalize_of_ascii longer, ← small, lowercase_of_ascii wordAscii]
                rfl
              · rw [lowercase_of_ascii longer, ← small, lowercase_of_ascii wordAscii]
                rfl

/-! ## The casings -/

/-- Another casing spells an ASCII name, and its first character starts a word in Pascal
case. -/
theorem toList_apply_of_ascii
    {casing : Casing}
    (recased : casing ≠ .verbatim)
    {name : String}
    (ascii : IsAscii name.toList) :
    (casing.apply name).toList = spell (casing = .pascal) name.toList := by
  obtain ⟨word, others, split, _, capital, small⟩ := words_spell ascii
  rw [apply, String.toList_ofList]
  cases casing with
  | verbatim => exact absurd rfl recased
  | camel =>
      rw [recase, split]
      exact small
  | pascal =>
      rw [recase, split, List.flatMap_cons]
      exact capital

/-- Whether the first character starts a word matters to that character alone, and only
when it is kept. -/
theorem spell_false_eq (name : List Char) :
    spell false name =
      if name.head?.any Char.isAlphanum then (spell true name).modifyHead Char.toLower
      else spell true name := by
  cases name with
  | nil => rfl
  | cons c rest =>
      rw [List.head?_cons, Option.any_some]
      cases kept : c.isAlphanum with
      | false =>
          rw [spell_of_separator kept, spell_of_separator kept]
          rfl
      | true =>
          rw [spell_of_kept kept, spell_of_kept kept]
          simp

/-- The spelling has the letters and the digits, in order. -/
theorem map_toLower_spell (starts : Bool) (name : List Char) :
    (spell starts name).map Char.toLower =
      (name.filter Char.isAlphanum).map Char.toLower := by
  induction name generalizing starts with
  | nil => rfl
  | cons c rest inductionHypothesis =>
      cases kept : c.isAlphanum with
      | false =>
          rw [spell_of_separator kept, inductionHypothesis true,
            List.filter_cons_of_neg (by simp [kept])]
      | true =>
          rw [spell_of_kept kept, List.filter_cons_of_pos kept, List.map_cons,
            List.map_cons, inductionHypothesis]
          cases starts with
          | false => rw [if_neg Bool.false_ne_true, Char.toLower_toLower_eq_toLower]
          | true => rw [if_pos rfl, Char.toLower_toUpper_eq_toLower]

/-- A spelling whose first character starts a word has no small letter in front. -/
theorem modifyHead_toUpper_spell_true (name : List Char) :
    (spell true name).modifyHead Char.toUpper = spell true name := by
  induction name with
  | nil => rfl
  | cons c rest inductionHypothesis =>
      cases kept : c.isAlphanum with
      | false => rw [spell_of_separator kept, inductionHypothesis]
      | true =>
          rw [spell_of_kept kept, if_pos rfl, List.modifyHead_cons,
            Char.toUpper_toUpper_eq_toUpper]

/-- The spelling with a word in front is known from the spelling without. -/
theorem spell_true_eq (name : List Char) :
    spell true name = (spell false name).modifyHead Char.toUpper := by
  cases name with
  | nil => rfl
  | cons c rest =>
      cases kept : c.isAlphanum with
      | false =>
          rw [spell_of_separator kept, spell_of_separator kept,
            modifyHead_toUpper_spell_true]
      | true =>
          rw [spell_of_kept kept, spell_of_kept kept, if_pos rfl,
            if_neg Bool.false_ne_true, List.modifyHead_cons,
            Char.toUpper_toLower_eq_toUpper]

/-- The casings of an ASCII name follow from its neighbouring characters. Pascal case is
what the positions contribute in order, camel case has its first character in lower case
when the name starts with a letter or a digit, both keep every letter and digit, and
names that coincide in camel case coincide in Pascal case. -/
theorem apply_of_ascii (name : String) (ascii : IsAscii name.toList) :
    (pascal.apply name).toList =
        (List.range name.length).filterMap (pascalAt name.toList) ∧
      (camel.apply name).toList =
        (if name.toList.head?.any Char.isAlphanum then
          (pascal.apply name).toList.modifyHead Char.toLower
        else (pascal.apply name).toList) ∧
      (∀ casing, casing ≠ verbatim ->
        (casing.apply name).toList.map Char.toLower =
          (name.toList.filter Char.isAlphanum).map Char.toLower) ∧
      ∀ other : String, IsAscii other.toList ->
        camel.apply name = camel.apply other ->
          pascal.apply name = pascal.apply other := by
  have inPascal {name : String} (ascii : IsAscii name.toList) :
      (pascal.apply name).toList = spell true name.toList :=
    toList_apply_of_ascii (by decide) ascii
  have inCamel {name : String} (ascii : IsAscii name.toList) :
      (camel.apply name).toList = spell false name.toList :=
    toList_apply_of_ascii (by decide) ascii
  rw [inPascal ascii, inCamel ascii]
  refine ⟨?_, spell_false_eq name.toList, ?_, fun other otherAscii equal => ?_⟩
  · rw [← String.length_toList, filterMap_pascalAt]
  · intro casing recased
    rw [toList_apply_of_ascii recased ascii, map_toLower_spell]
  · refine String.toList_injective ?_
    rw [inPascal ascii, inPascal otherAscii, spell_true_eq name.toList,
      spell_true_eq other.toList, ← inCamel ascii, equal, inCamel otherAscii]

/-- Acronyms, digits and separators of every kind in one name, and a name that differs
from it in its separators alone. -/
theorem httpApi_spelled :
    let name := "HTTPApi2go__v10 x"
    let other := "httpApi-2Go,v_10X"
    IsAscii name.toList ∧ IsAscii other.toList ∧
      camel.apply name = camel.apply other ∧
      (List.range name.length).filterMap (pascalAt name.toList) =
        "HttpApi2GoV10X".toList ∧
      pascal.apply name = "HttpApi2GoV10X" ∧
      camel.apply name = "httpApi2GoV10X" ∧
      pascal.apply other = pascal.apply name := by
  intro name other
  have nameAscii : IsAscii name.toList := by decide +kernel
  have otherAscii : IsAscii other.toList := by decide +kernel
  have positions : (List.range name.length).filterMap (pascalAt name.toList) =
      "HttpApi2GoV10X".toList := by decide +kernel
  have same : camel.apply name = camel.apply other := by decide +kernel
  obtain ⟨inPascal, inCamel, _, coincide⟩ := apply_of_ascii name nameAscii
  have spelled : pascal.apply name = "HttpApi2GoV10X" :=
    String.toList_injective (inPascal.trans positions)
  refine ⟨nameAscii, otherAscii, same, positions, spelled, ?_,
    (coincide other otherAscii same).symm⟩
  rw [spelled] at inCamel
  exact String.toList_injective (inCamel.trans (by decide +kernel))

end Casing
end TableTypes
