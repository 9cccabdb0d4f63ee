import Mathlib.Data.List.Forall2
import TableTypes.Casing
import TableTypes.Proofs.Unicode.CaseForms

/-!
# Names that a casing leaves as they are

A casing takes a name apart into words and gives each word a form. It returns the name
itself exactly when nothing is lost in between and every word has its form already. A
character that is lost is never made up for: what a letter turns into begins with a
letter, so the first difference between a name and what comes of it remains.
-/

namespace TableTypes
namespace Casing

open Unicode (IsFormOf)

/-- The words of a name with the form of a casing. -/
def respell : Casing -> List (List Char) -> List (List Char)
  | .verbatim, parts => parts
  | .pascal, parts => parts.map capitalize
  | .camel, [] => []
  | .camel, first :: others => Unicode.lowercase first :: others.map capitalize

/-- A name is spelled in a casing: names are kept as reported, or the words are all there
is of the name and each has its form. -/
def IsSpelled (casing : Casing) (name : List Char) : Prop :=
  casing = .verbatim ∨
    (words name).flatten = name ∧ casing.respell (words name) = words name

/-! ## What the words keep -/

/-- A part of a name is kept in its words: letters and digits are kept, and a character
that is neither is lost or, when it forms a cluster with a neighbour, kept as a
separator. -/
inductive Keeps : List Char -> List Char -> Prop
  | nil : Keeps [] []
  | letter {c : Char} {name kept : List Char} :
      Unicode.isAlphanumeric c = true -> Keeps name kept ->
        Keeps (c :: name) (c :: kept)
  | lost {c : Char} {name kept : List Char} :
      Unicode.isAlphanumeric c = false -> Keeps name kept -> Keeps (c :: name) kept
  | heldBefore {c mark : Char} {name kept : List Char} :
      Unicode.isAlphanumeric c = false -> Unicode.isAlphanumeric mark = true ->
        Keeps (mark :: name) (mark :: kept) ->
          Keeps (c :: mark :: name) ('_' :: mark :: kept)
  | heldAfter {c other : Char} {name kept : List Char} :
      Unicode.isAlphanumeric c = true -> Unicode.isAlphanumeric other = false ->
        Keeps name kept -> Keeps (c :: other :: name) (c :: '_' :: kept)

/-- The clusters of a name without the separators that stand alone. -/
def keptClusters (parts : List (List Char)) : List Char :=
  (parts.filter fun cluster => cluster ≠ ['_']).flatten

theorem keptClusters_separator (parts : List (List Char)) :
    keptClusters (['_'] :: parts) = keptClusters parts := rfl

theorem keptClusters_cons
    {cluster : List Char}
    (other : cluster ≠ ['_'])
    (parts : List (List Char)) :
    keptClusters (cluster :: parts) = cluster ++ keptClusters parts := by
  rw [keptClusters, List.filter_cons_of_pos (by simpa using other), List.flatten_cons]
  rfl

theorem ofCluster_eq_separator_iff (cluster : List Char) :
    ClusterKind.ofCluster cluster = .separator ↔ cluster = ['_'] := by
  unfold ClusterKind.ofCluster
  split
  next alone => simp [alone]
  next other =>
    have never : ∀ kind : ClusterKind, kind ≠ .separator ->
        (kind = .separator ↔ cluster = ['_']) :=
      fun kind different => iff_of_false different other
    refine never _ ?_
    dsimp only
    split_ifs <;> exact ClusterKind.noConfusion

/-- The words of clusters hold the clusters in order. -/
theorem flatten_wordsOfClusters (parts : List (List Char)) :
    (wordsOfClusters parts).flatten = keptClusters parts := by
  induction parts with
  | nil => rfl
  | cons cluster rest inductionHypothesis =>
      rw [wordsOfClusters]
      simp only [ofCluster_eq_separator_iff]
      by_cases alone : cluster = ['_']
      · rw [if_pos alone, alone, keptClusters_separator, ← inductionHypothesis]
        rfl
      · rw [if_neg alone, keptClusters_cons alone, ← inductionHypothesis]
        split
        · rfl
        · cases split : wordsOfClusters rest with
          | nil => exact absurd split (wordsOfClusters_ne_nil rest)
          | cons word others => simp

/-- The first cluster begins with the first character. -/
theorem exists_clusters_cons (c : Char) (rest : List Char) :
    ∃ cluster others, Unicode.clusters (c :: rest) = (c :: cluster) :: others := by
  rw [Unicode.clusters]
  split
  next next cluster others _ =>
    split
    · exact ⟨next :: cluster, others, rfl⟩
    · exact ⟨[], (next :: cluster) :: others, rfl⟩
  next others _ => exact ⟨[], _, rfl⟩

/-- Behind a first cluster of one character are the clusters of the remainder. -/
theorem clusters_of_cons_alone
    {c : Char}
    {rest : List Char}
    {others : List (List Char)}
    (alone : Unicode.clusters (c :: rest) = [c] :: others) :
    Unicode.clusters rest = others := by
  rw [Unicode.clusters] at alone
  split at alone
  next next cluster following found =>
    split at alone
    · simp at alone
    · rw [found]
      exact (List.cons.inj alone).2
  next => exact (List.cons.inj alone).2

/-- A character joins the first cluster of what follows, or it stands before it. -/
theorem clusters_cons_cons
    {c d : Char}
    {rest cluster : List Char}
    {others : List (List Char)}
    (found : Unicode.clusters (d :: rest) = (d :: cluster) :: others) :
    Unicode.clusters (c :: d :: rest) =
      if (Unicode.ClusterRole.ofChar c).joins (Unicode.ClusterRole.ofChar d) then
        (c :: d :: cluster) :: others
      else [c] :: (d :: cluster) :: others := by
  rw [Unicode.clusters, found]

theorem separate_cons_letter
    {c : Char}
    (alphanumeric : Unicode.isAlphanumeric c = true)
    (rest : List Char) :
    separate (c :: rest) = c :: separate rest :=
  congrArg (· :: separate rest) (if_pos alphanumeric)

theorem separate_cons_other
    {c : Char}
    (other : Unicode.isAlphanumeric c = false)
    (rest : List Char) :
    separate (c :: rest) = '_' :: separate rest :=
  congrArg (· :: separate rest) (if_neg (by simp [other]))

theorem cons_ne_separator
    {c : Char}
    (alphanumeric : Unicode.isAlphanumeric c = true)
    (cluster : List Char) :
    c :: cluster ≠ ['_'] := by
  intro same
  obtain ⟨rfl, _⟩ := List.cons.inj same
  exact absurd alphanumeric (by decide)

/-- The clusters of a name keep it as its words do. -/
theorem keeps_keptClusters :
    ∀ name : List Char, Keeps name (keptClusters (Unicode.clusters (separate name)))
  | [] => Keeps.nil
  | [c] => by
      cases alphanumeric : Unicode.isAlphanumeric c with
      | true =>
          rw [separate_cons_letter alphanumeric]
          change Keeps [c] (keptClusters [[c]])
          rw [keptClusters_cons (cons_ne_separator alphanumeric [])]
          exact Keeps.letter alphanumeric Keeps.nil
      | false =>
          rw [separate_cons_other alphanumeric]
          exact Keeps.lost alphanumeric Keeps.nil
  | c :: d :: rest => by
      have later := keeps_keptClusters (d :: rest)
      obtain ⟨first, following, separated⟩ : ∃ first following,
          separate (d :: rest) = first :: following := ⟨_, _, rfl⟩
      obtain ⟨cluster, others, found⟩ := exists_clusters_cons first following
      cases alphanumeric : Unicode.isAlphanumeric c with
      | true =>
          rw [separate_cons_letter alphanumeric, separated, clusters_cons_cons found]
          rw [separated, found] at later
          split
          next =>
            rw [keptClusters_cons (cons_ne_separator alphanumeric _)]
            by_cases alone : first :: cluster = ['_']
            · -- The sign that precedes its letter holds a separator instead.
              obtain ⟨rfl, rfl⟩ := List.cons.inj alone
              have isOther : Unicode.isAlphanumeric d = false := by
                refine eq_false_of_ne_true fun isLetter => ?_
                rw [separate_cons_letter isLetter] at separated
                exact absurd (List.cons.inj separated).1
                  fun same => cons_ne_separator isLetter [] (congrArg (· :: []) same)
              have latest := keeps_keptClusters rest
              rw [separate_cons_other isOther] at separated
              obtain ⟨_, rfl⟩ := List.cons.inj separated
              rw [clusters_of_cons_alone found] at latest
              exact Keeps.heldAfter alphanumeric isOther latest
            · rw [keptClusters_cons alone] at later
              exact Keeps.letter alphanumeric later
          next =>
            rw [keptClusters_cons (cons_ne_separator alphanumeric [])]
            exact Keeps.letter alphanumeric later
      | false =>
          rw [separate_cons_other alphanumeric, separated, clusters_cons_cons found]
          rw [separated, found] at later
          split
          next joined =>
            have isMark : Unicode.isAlphanumeric d = true := by
              refine eq_true_of_ne_false fun isOther => ?_
              rw [separate_cons_other isOther] at separated
              obtain ⟨rfl, _⟩ := List.cons.inj separated
              exact absurd joined (by decide)
            rw [separate_cons_letter isMark] at separated
            obtain ⟨rfl, _⟩ := List.cons.inj separated
            rw [keptClusters_cons (by simp)]
            rw [keptClusters_cons (cons_ne_separator isMark cluster)] at later
            exact Keeps.heldBefore alphanumeric isMark later
          next =>
            rw [keptClusters_separator]
            exact Keeps.lost alphanumeric later

theorem keeps_words (name : List Char) : Keeps name (words name).flatten := by
  rw [words, flatten_wordsOfClusters]
  exact keeps_keptClusters name

/-! ## Forms -/

/-- When a form and what follows it begin with the character of the form, the form is
that character. -/
theorem eq_of_form_append
    {c : Char}
    {form after name : List Char}
    (isForm : IsFormOf c form)
    (same : form ++ after = c :: name) :
    form = [c] ∧ after = name := by
  cases form with
  | nil => exact absurd rfl isForm.ne_nil
  | cons first rest =>
      obtain ⟨rfl, _⟩ := List.cons.inj same
      have single := isForm.eq_singleton rfl
      rw [single, List.singleton_append] at same
      exact ⟨single, (List.cons.inj same).2⟩

/-- The form of a letter or a digit begins with such a character. -/
theorem isAlphanumeric_of_form_append
    {c first : Char}
    {form after name : List Char}
    (isForm : IsFormOf c form)
    (alphanumeric : Unicode.isAlphanumeric c = true)
    (same : form ++ after = first :: name) :
    Unicode.isAlphanumeric first = true := by
  cases form with
  | nil => exact absurd rfl isForm.ne_nil
  | cons other rest =>
      obtain ⟨rfl, _⟩ := List.cons.inj same
      exact isForm.startsAlphanumeric alphanumeric

/-- What is kept begins with a letter or a digit, or with a separator in front of such a
character when the name begins with neither. -/
theorem Keeps.begins
    {name kept : List Char}
    (keeps : Keeps name kept) :
    kept = [] ∨
      (∃ c rest, kept = c :: rest ∧ Unicode.isAlphanumeric c = true) ∨
      ∃ mark rest other remainder,
        kept = '_' :: mark :: rest ∧ Unicode.isAlphanumeric mark = true ∧
          name = other :: remainder ∧ Unicode.isAlphanumeric other = false := by
  induction keeps with
  | nil => exact Or.inl rfl
  | letter alphanumeric _ _ => exact Or.inr (Or.inl ⟨_, _, rfl, alphanumeric⟩)
  | lost isOther _ inductionHypothesis =>
      rcases inductionHypothesis with rfl | letter | ⟨mark, rest, _, _, rfl, isMark, _, _⟩
      · exact Or.inl rfl
      · exact Or.inr (Or.inl letter)
      · exact Or.inr (Or.inr ⟨mark, rest, _, _, rfl, isMark, rfl, isOther⟩)
  | heldBefore isOther isMark _ _ =>
      exact Or.inr (Or.inr ⟨_, _, _, _, rfl, isMark, rfl, isOther⟩)
  | heldAfter alphanumeric _ _ _ => exact Or.inr (Or.inl ⟨_, _, rfl, alphanumeric⟩)

/-- A name that is made of forms of what is kept of it is all kept. -/
theorem Keeps.eq_of_forms
    {name kept : List Char}
    (keeps : Keeps name kept)
    {forms : List (List Char)}
    (areForms : List.Forall₂ IsFormOf kept forms)
    (same : forms.flatten = name) :
    kept = name := by
  induction keeps generalizing forms with
  | nil => rfl
  | letter _ _ inductionHypothesis =>
      cases areForms with
      | cons isForm laterForms =>
          obtain ⟨_, rest⟩ := eq_of_form_append isForm same
          rw [inductionHypothesis laterForms rest]
  | lost isOther keeps _ =>
      -- The first form would have to begin with the character that is lost.
      exfalso
      rcases keeps.begins with rfl | ⟨c, rest, rfl, alphanumeric⟩ |
        ⟨mark, rest, other, remainder, rfl, isMark, rfl, otherwise⟩
      · cases areForms
        cases same
      · cases areForms with
        | cons isForm _ =>
            have begins := isAlphanumeric_of_form_append isForm alphanumeric same
            exact absurd begins (by simp [isOther])
      · cases areForms with
        | cons isForm laterForms =>
            cases laterForms with
            | cons markForm _ =>
                rw [List.flatten_cons, isForm.eq_lowLine rfl, List.singleton_append,
                  List.flatten_cons] at same
                have begins := isAlphanumeric_of_form_append markForm isMark
                  (List.cons.inj same).2
                exact absurd begins (by simp [otherwise])
  | heldBefore _ _ _ inductionHypothesis =>
      cases areForms with
      | cons isForm laterForms =>
          rw [List.flatten_cons, isForm.eq_lowLine rfl, List.singleton_append] at same
          obtain ⟨first, rest⟩ := List.cons.inj same
          rw [first, inductionHypothesis laterForms rest]
  | heldAfter _ _ _ inductionHypothesis =>
      cases areForms with
      | cons isForm laterForms =>
          obtain ⟨_, rest⟩ := eq_of_form_append isForm same
          cases laterForms with
          | cons lowLine latestForms =>
              rw [List.flatten_cons, lowLine.eq_lowLine rfl,
                List.singleton_append] at rest
              obtain ⟨second, remainder⟩ := List.cons.inj rest
              rw [second, inductionHypothesis latestForms remainder]

/-! ## The words of a casing -/

/-- The forms of a text side by side are at least as long as the text. -/
theorem length_le_of_forms
    {text : List Char}
    {forms : List (List Char)}
    (areForms : List.Forall₂ IsFormOf text forms) :
    text.length ≤ forms.flatten.length := by
  induction areForms with
  | nil => exact Nat.le_refl 0
  | cons isForm _ inductionHypothesis =>
      have nonempty := List.length_pos_iff.mpr isForm.ne_nil
      rw [List.flatten_cons, List.length_append, List.length_cons]
      omega

/-- A text is made of forms of the characters of another. -/
def MadeOfForms (text other : List Char) : Prop :=
  ∃ forms, List.Forall₂ IsFormOf text forms ∧ other = forms.flatten

theorem madeOfForms_lowercase (word : List Char) :
    MadeOfForms word (Unicode.lowercase word) :=
  Unicode.exists_forms_lowercaseAfter [] word

theorem madeOfForms_capitalize (word : List Char) :
    MadeOfForms word (capitalize word) := by
  cases word with
  | nil => exact ⟨[], List.Forall₂.nil, rfl⟩
  | cons c rest =>
      obtain ⟨forms, areForms, written⟩ := Unicode.exists_forms_lowercaseAfter [] rest
      refine ⟨Unicode.upperForm c :: forms,
        List.Forall₂.cons (Unicode.isFormOf_upperForm c) areForms, ?_⟩
      rw [capitalize, Unicode.lowercase, written, List.flatten_cons]

/-- Every word of another casing is made of forms of the reported one. -/
theorem madeOfForms_respell
    {casing : Casing}
    (recased : casing ≠ .verbatim)
    (parts : List (List Char)) :
    List.Forall₂ MadeOfForms parts (casing.respell parts) := by
  have capitals (others : List (List Char)) :
      List.Forall₂ MadeOfForms others (others.map capitalize) := by
    rw [List.forall₂_map_right_iff, List.forall₂_same]
    exact fun word _ => madeOfForms_capitalize word
  cases casing with
  | verbatim => exact absurd rfl recased
  | pascal => exact capitals parts
  | camel =>
      cases parts with
      | nil => exact List.Forall₂.nil
      | cons first others =>
          exact List.Forall₂.cons (madeOfForms_lowercase first) (capitals others)

theorem madeOfForms_flatten
    {parts others : List (List Char)}
    (made : List.Forall₂ MadeOfForms parts others) :
    MadeOfForms parts.flatten others.flatten := by
  induction made with
  | nil => exact ⟨[], List.Forall₂.nil, rfl⟩
  | cons first _ inductionHypothesis =>
      obtain ⟨forms, areForms, rfl⟩ := first
      obtain ⟨laterForms, areLater, written⟩ := inductionHypothesis
      refine ⟨forms ++ laterForms, List.rel_append areForms areLater, ?_⟩
      rw [List.flatten_cons, List.flatten_append, written]

/-- Words that become no shorter and make up the same text are the same words. -/
theorem eq_of_flatten_eq
    {parts others : List (List Char)}
    (made : List.Forall₂ MadeOfForms parts others)
    (same : others.flatten = parts.flatten) :
    others = parts := by
  induction made with
  | nil => rfl
  | @cons word other words others first later inductionHypothesis =>
      obtain ⟨_, areForms, written⟩ := first
      obtain ⟨_, areLater, writtenLater⟩ := madeOfForms_flatten later
      have longer := length_le_of_forms areForms
      have laterLonger := length_le_of_forms areLater
      rw [← written] at longer
      rw [← writtenLater] at laterLonger
      have lengths := congrArg List.length same
      simp only [List.flatten_cons, List.length_append] at lengths
      obtain ⟨sameWord, sameLater⟩ := List.append_inj same (by omega)
      rw [sameWord, inductionHypothesis sameLater]

/-- Another casing writes the words of a name in their form. -/
theorem recase_eq_flatten
    {casing : Casing}
    (recased : casing ≠ .verbatim)
    (name : List Char) :
    casing.recase name = (casing.respell (words name)).flatten := by
  cases casing with
  | verbatim => exact absurd rfl recased
  | pascal => exact List.flatMap_def ..
  | camel =>
      rw [recase]
      cases words name with
      | nil => rfl
      | cons first others =>
          exact congrArg (Unicode.lowercase first ++ ·) List.flatMap_def

/-- A casing leaves a name as it is exactly when the name is spelled in it. -/
theorem recase_eq_self_iff (casing : Casing) (name : List Char) :
    casing.recase name = name ↔ casing.IsSpelled name := by
  by_cases recased : casing = .verbatim
  · rw [recased]
    exact iff_of_true rfl (Or.inl rfl)
  · rw [recase_eq_flatten recased, IsSpelled, or_iff_right recased]
    constructor
    · intro same
      have made := madeOfForms_respell recased (words name)
      obtain ⟨forms, areForms, written⟩ := madeOfForms_flatten made
      have whole : (words name).flatten = name :=
        (keeps_words name).eq_of_forms areForms (written.symm.trans same)
      exact ⟨whole, eq_of_flatten_eq made (same.trans whole.symm)⟩
    · rintro ⟨whole, spelled⟩
      rw [spelled, whole]

end Casing
end TableTypes
