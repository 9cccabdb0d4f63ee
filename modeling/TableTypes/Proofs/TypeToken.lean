import Mathlib
import TableTypes.Column
import TableTypes.ColumnKind
import TableTypes.Proofs.Casing.AsciiNames

/-!
# Spellings of a type

The token of a type text is the first word of the text in lower case. Two texts
have the same token exactly when one is respelled into the other: by the case of
ASCII letters, by white space around the text, and by what follows a parenthesis
or, after white space, the first word.
-/

namespace TableTypes

namespace Unicode

/-- A text is made of white space. -/
def IsBlank (text : String) : Prop :=
  text.toList.all isWhitespace = true

instance (text : String) : Decidable (IsBlank text) :=
  inferInstanceAs (Decidable (_ = true))

/-- A test that gives the same answer for every ASCII letter in both cases does not
depend on the case of letters. -/
theorem test_toLower
    (test : Char -> Bool)
    (sameAnswer : ∀ code < 128,
      test (Char.ofNat code).toLower = test (Char.ofNat code))
    (c : Char) : test c.toLower = test c := by
  cases upper : c.isUpper with
  | false => rw [Char.toLower_eq_of_not_isUpper (by simp [upper])]
  | true =>
      have ascii : c.toNat < 128 := by
        simp only [Char.isUpper, decide_eq_true_eq, UInt32.le_iff_toNat_le] at upper
        have atMost : c.toNat ≤ 90 := upper.2
        omega
      exact Casing.forall_ascii (fun c => test c.toLower = test c) sameAnswer c ascii

theorem isWhitespace_toLower (c : Char) :
    isWhitespace c.toLower = isWhitespace c :=
  test_toLower isWhitespace (by decide +kernel) c

end Unicode

namespace ColumnKind

open Unicode

/-- A character goes on with the first word of a type text. -/
def continuesWord (c : Char) : Bool :=
  c ≠ '(' && !isWhitespace c

/-- The first word of a type text, as it is spelled. -/
def firstWord (typeText : List Char) : List Char :=
  (typeText.dropWhile isWhitespace).takeWhile continuesWord

theorem continuesWord_toLower (c : Char) :
    continuesWord c.toLower = continuesWord c :=
  test_toLower continuesWord (by decide +kernel) c

/-- White space does not go on with a word. -/
theorem continuesWord_of_isWhitespace
    {c : Char}
    (blank : isWhitespace c = true) :
    continuesWord c = false := by
  rw [continuesWord, blank, Bool.not_true, Bool.and_false]

/-- The characters dropped end in front of one that fails the test. -/
theorem eq_false_of_dropWhile_eq_cons
    {test : Char -> Bool}
    {text rest : List Char}
    {first : Char}
    (kept : text.dropWhile test = first :: rest) :
    test first = false := by
  have fails := List.head?_dropWhile_not test text
  rwa [kept] at fails

/-- A word ends at the first character that does not go on with it, whatever
follows. -/
theorem takeWhile_append_stop
    {stop : Char}
    (stops : continuesWord stop = false)
    (text rest : List Char) :
    (text ++ stop :: rest).takeWhile continuesWord =
      text.takeWhile continuesWord := by
  rw [List.takeWhile_append, List.takeWhile_cons_of_neg (by simp [stops]),
    List.append_nil]
  split
  next whole => exact ((List.takeWhile_prefix _).eq_of_length whole).symm
  next => rfl

/-- The white space after a text is no part of its first word. -/
theorem takeWhile_trim (text : List Char) :
    (trim text).takeWhile continuesWord = firstWord text := by
  let kept := text.dropWhile isWhitespace
  have parts :
      (kept.reverse.dropWhile isWhitespace).reverse
          ++ (kept.reverse.takeWhile isWhitespace).reverse =
        kept := by
    rw [← List.reverse_append, List.takeWhile_append_dropWhile, List.reverse_reverse]
  change (kept.reverse.dropWhile isWhitespace).reverse.takeWhile _ = kept.takeWhile _
  cases ending : (kept.reverse.takeWhile isWhitespace).reverse with
  | nil =>
      rw [ending, List.append_nil] at parts
      rw [parts]
  | cons stop rest =>
      have fromEnding : stop ∈ kept.reverse.takeWhile isWhitespace := by
        rw [← List.mem_reverse, ending]
        exact List.mem_cons_self
      have stops := continuesWord_of_isWhitespace (List.mem_takeWhile_imp fromEnding)
      have cut := takeWhile_append_stop stops
        (kept.reverse.dropWhile isWhitespace).reverse rest
      rw [← ending, parts] at cut
      exact cut.symm

/-- The token of a text is its first word in lower case. -/
theorem toList_typeToken (typeText : String) :
    (typeToken typeText).toList = (firstWord typeText.toList).map Char.toLower := by
  have token : typeToken typeText =
      (String.ofList ((trim typeText.toList).takeWhile continuesWord)).toLower := rfl
  rw [token, takeWhile_trim, String.toLower, String.toList_map, String.toList_ofList]

theorem typeToken_eq_iff (left right : String) :
    typeToken left = typeToken right ↔
      (firstWord left.toList).map Char.toLower =
        (firstWord right.toList).map Char.toLower := by
  rw [← String.toList_inj, toList_typeToken, toList_typeToken]

/-! ## Respelling -/

/-- One text is the other with a part spelled differently that no token shows. -/
inductive Respells : String -> String -> Prop
  /-- ASCII letters in another case. -/
  | letterCase
      {left right : String}
      (same : Column.sameText left right = true) : Respells left right
  /-- White space around the text. -/
  | padding
      {before after : String}
      (blankBefore : IsBlank before)
      (blankAfter : IsBlank after)
      (text : String) : Respells text (before ++ text ++ after)
  /-- A parenthesis after the text, and anything behind it. -/
  | parenthesis (text rest : String) : Respells text (text ++ "(" ++ rest)
  /-- White space after a text with a word, and anything behind it. -/
  | qualifier
      {text separator : String}
      (hasWord : ¬ IsBlank text)
      (blank : IsBlank separator)
      (parts : separator ≠ "")
      (rest : String) : Respells text (text ++ separator ++ rest)

/-- Letters in lower case are cut into the same words. -/
theorem firstWord_map_toLower (text : List Char) :
    firstWord (text.map Char.toLower) = (firstWord text).map Char.toLower := by
  have sameBlank : isWhitespace ∘ Char.toLower = isWhitespace :=
    funext isWhitespace_toLower
  have sameWord : continuesWord ∘ Char.toLower = continuesWord :=
    funext continuesWord_toLower
  rw [firstWord, List.dropWhile_map, sameBlank, List.takeWhile_map, sameWord]
  rfl

/-- What follows a character that ends the first word makes no difference, provided
that the word has begun or that the character cannot be skipped. -/
theorem firstWord_append_stop
    {text : List Char}
    {stop : Char}
    (stops : continuesWord stop = false)
    (notSkipped : text.all isWhitespace = true -> isWhitespace stop = false)
    (rest : List Char) :
    firstWord (text ++ stop :: rest) = firstWord text := by
  rw [firstWord, firstWord, List.dropWhile_append]
  cases kept : text.dropWhile isWhitespace with
  | nil =>
      have shown := notSkipped (List.all_eq_true.mpr (List.dropWhile_eq_nil_iff.mp kept))
      rw [List.isEmpty_nil, if_pos rfl, List.dropWhile_cons_of_neg (by simp [shown]),
        List.takeWhile_cons_of_neg (by simp [stops])]
      rfl
  | cons first others =>
      rw [List.isEmpty_cons, if_neg Bool.false_ne_true, takeWhile_append_stop stops]

/-- Letter case is the only difference between texts that are the same text. -/
theorem sameText_iff (left right : String) :
    Column.sameText left right = true ↔
      left.toList.map Char.toLower = right.toList.map Char.toLower := by
  rw [Column.sameText, beq_iff_eq, ← String.toList_inj, String.toLower, String.toLower,
    String.toList_map, String.toList_map]

/-- Respelling keeps the token. -/
theorem Respells.typeToken_eq
    {left right : String}
    (respells : Respells left right) :
    typeToken left = typeToken right := by
  rw [typeToken_eq_iff]
  cases respells with
  | letterCase same =>
      rw [← firstWord_map_toLower, (sameText_iff left right).mp same,
        firstWord_map_toLower]
  | padding blankBefore blankAfter =>
      rw [String.toList_append, String.toList_append, ← takeWhile_trim left.toList,
        ← trim_append blankBefore blankAfter, takeWhile_trim]
  | parenthesis text rest =>
      rw [String.toList_append, String.toList_append, List.append_assoc]
      refine congrArg _ (firstWord_append_stop ?_ (fun _ => ?_) rest.toList).symm
      · decide
      · decide
  | qualifier hasWord blank parts rest =>
      rename_i separator
      rw [String.toList_append, String.toList_append, List.append_assoc]
      cases characters : separator.toList with
      | nil => exact absurd (String.toList_eq_nil_iff.mp characters) parts
      | cons stop others =>
          rw [IsBlank, characters, List.all_cons, Bool.and_eq_true] at blank
          have stops := continuesWord_of_isWhitespace blank.1
          rw [List.cons_append, firstWord_append_stop stops]
          exact fun noWord => absurd noWord hasWord

/-- A text is respelled by what follows it, from a character that ends its first
word. -/
theorem respells_append_stop
    {text : List Char}
    {stop : Char}
    (stops : continuesWord stop = false)
    (hasWord : isWhitespace stop = true -> ¬ IsBlank (String.ofList text))
    (rest : List Char) :
    Respells (String.ofList text) (String.ofList (text ++ stop :: rest)) := by
  have parts : String.ofList (text ++ stop :: rest) =
      String.ofList text ++ String.ofList [stop] ++ String.ofList rest := by
    rw [← String.ofList_append, ← String.ofList_append, List.append_assoc,
      List.singleton_append]
  rw [parts]
  cases blank : isWhitespace stop with
  | true =>
      refine .qualifier (hasWord blank) ?_ ?_ _
      · rw [IsBlank, String.toList_ofList, List.all_cons, blank]
        rfl
      · exact fun empty => List.cons_ne_nil stop [] (String.ofList_eq_empty_iff.mp empty)
  | false =>
      have opens : stop = '(' := by simpa [continuesWord, blank] using stops
      rw [opens]
      exact .parenthesis _ _

/-- A first word holds no white space. -/
theorem firstWord_eq_nil_of_isBlank
    {text : List Char}
    (blank : IsBlank (String.ofList (firstWord text))) :
    firstWord text = [] := by
  rw [IsBlank, String.toList_ofList, List.all_eq_true] at blank
  refine List.eq_nil_iff_forall_not_mem.mpr fun c member => ?_
  have continues : continuesWord c = true := List.mem_takeWhile_imp member
  rw [continuesWord_of_isWhitespace (blank c member)] at continues
  exact Bool.noConfusion continues

/-- Every text is a respelling of its first word. -/
theorem eqvGen_firstWord (text : String) :
    Relation.EqvGen Respells text (String.ofList (firstWord text.toList)) := by
  let blank := text.toList.takeWhile isWhitespace
  let kept := text.toList.dropWhile isWhitespace
  have padded : Respells (String.ofList kept) text := by
    have blankBefore : IsBlank (String.ofList blank) := by
      rw [IsBlank, String.toList_ofList]
      exact List.all_takeWhile
    have step := Respells.padding blankBefore (by decide : IsBlank "") (String.ofList kept)
    rwa [String.append_empty, ← String.ofList_append, List.takeWhile_append_dropWhile,
      String.ofList_toList] at step
  refine .trans _ _ _ (.symm _ _ (.rel _ _ padded)) ?_
  have cut : firstWord text.toList ++ kept.dropWhile continuesWord = kept :=
    List.takeWhile_append_dropWhile
  cases ending : kept.dropWhile continuesWord with
  | nil =>
      rw [ending, List.append_nil] at cut
      rw [cut]
      exact .refl _
  | cons stop rest =>
      have stops := eq_false_of_dropWhile_eq_cons ending
      rw [ending] at cut
      have respelled : Respells (String.ofList (firstWord text.toList))
          (String.ofList (firstWord text.toList ++ stop :: rest)) := by
        refine respells_append_stop stops (fun blankStop noWord => ?_) rest
        -- Without a word the white space would have been dropped.
        rw [firstWord_eq_nil_of_isBlank noWord, List.nil_append] at cut
        have shown := eq_false_of_dropWhile_eq_cons cut.symm
        rw [blankStop] at shown
        exact Bool.noConfusion shown
      rw [cut] at respelled
      exact .symm _ _ (.rel _ _ respelled)

/-- Two texts have the same token exactly when one is respelled into the other. -/
theorem typeToken_eq_iff_eqvGen (left right : String) :
    typeToken left = typeToken right ↔ Relation.EqvGen Respells left right := by
  constructor
  · intro same
    have letterCase : Respells (String.ofList (firstWord left.toList))
        (String.ofList (firstWord right.toList)) := by
      refine .letterCase ((sameText_iff _ _).mpr ?_)
      rw [String.toList_ofList, String.toList_ofList]
      exact (typeToken_eq_iff left right).mp same
    exact .trans _ _ _ (eqvGen_firstWord left)
      (.trans _ _ _ (.rel _ _ letterCase) (.symm _ _ (eqvGen_firstWord right)))
  · intro respelled
    induction respelled with
    | rel _ _ step => exact step.typeToken_eq
    | refl _ => rfl
    | symm _ _ _ inductionHypothesis => exact inductionHypothesis.symm
    | trans _ _ _ _ _ first second => exact first.trans second

end ColumnKind
end TableTypes
