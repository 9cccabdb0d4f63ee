import TableTypes.Proofs.Unicode.CodeRanges
import TableTypes.Unicode.IdentifierClasses
import TableTypes.Unicode.Numeric

/-!
# Letters and numbers among the identifier classes

Every alphabetic character starts an identifier or is a mark, and every numeric character
goes on with one, apart from the symbols and numbers that are foreign to identifiers.
Foreign characters have no place in an identifier. The tables are compared range by range.
-/

namespace TableTypes
namespace Unicode

/-! ## Tables -/

/-- The tables of characters that an identifier may go on with. -/
def continueTables : List CodeRanges :=
  [idStartRanges, markRanges, decimalDigitRanges, connectorRanges]

/-- The code points of characters that are foreign to identifiers. -/
def foreignTables : List CodeRanges :=
  [otherNumberRanges, enclosedLetterRanges, [(0x2E2F, 0x2E2F)]]

/-- The tables that are compared with each other. -/
def comparedTables : List CodeRanges :=
  [alphabeticRanges, numericRanges] ++ continueTables ++ foreignTables

theorem mem_comparedTables_of_continue
    {table : CodeRanges}
    (continuing : table ∈ continueTables) :
    table ∈ comparedTables :=
  List.mem_append_left _ (List.mem_append_right _ continuing)

theorem mem_comparedTables_of_foreign
    {table : CodeRanges}
    (foreign : table ∈ foreignTables) :
    table ∈ comparedTables :=
  List.mem_append_right _ foreign

theorem ascending_of_mem
    {table : CodeRanges}
    (member : table ∈ comparedTables) :
    table.Ascending := by
  have chains : comparedTables.all fun table =>
      decide (table.IsChain fun first second => first.1 ≤ second.1) := by
    decide +kernel
  exact CodeRanges.ascending_of_isChain
    (of_decide_eq_true (List.all_eq_true.mp chains table member))

theorem contains_iff_has
    (table : CodeRanges)
    (member : table ∈ comparedTables)
    (code : Nat) :
    table.contains code = true ↔ table.Has code := by
  refine ⟨CodeRanges.has_of_contains, ?_⟩
  rintro ⟨range, among, above, below⟩
  exact CodeRanges.contains_of_mem (ascending_of_mem member) among above below

theorem isIdContinue_iff (c : Char) :
    isIdContinue c = true ↔
      c.isAlphanum = true ∨ c = '_' ∨ ∃ table ∈ continueTables, table.Has c.toNat := by
  have atTables : ∀ table ∈ continueTables,
      (table.contains c.toNat = true ↔ table.Has c.toNat) :=
    fun table member =>
      contains_iff_has table (mem_comparedTables_of_continue member) c.toNat
  simp only [continueTables, List.forall_mem_cons] at atTables
  obtain ⟨letters, marks, digits, connectors, _⟩ := atTables
  simp only [isIdContinue, isIdStart, isMark, isDecimalDigit, isConnector, Char.isAlphanum,
    Bool.or_eq_true, decide_eq_true_eq, letters, marks, digits, connectors, continueTables,
    List.mem_cons, List.not_mem_nil, or_false, exists_eq_or_imp, exists_eq_left]
  grind

theorem isForeign_iff (c : Char) :
    isForeign c = true ↔ ∃ table ∈ foreignTables, table.Has c.toNat := by
  have isTilde : c = '\u2E2F' ↔ CodeRanges.Has [(0x2E2F, 0x2E2F)] c.toNat := by
    simp only [CodeRanges.Has, List.mem_singleton, exists_eq_left, ← Char.toNat_inj]
    exact ⟨fun same => ⟨Nat.le_of_eq same.symm, Nat.le_of_eq same⟩,
      fun bounds => Nat.le_antisymm bounds.2 bounds.1⟩
  have atTables : ∀ table ∈ foreignTables,
      (table.contains c.toNat = true ↔ table.Has c.toNat) :=
    fun table member =>
      contains_iff_has table (mem_comparedTables_of_foreign member) c.toNat
  simp only [foreignTables, List.forall_mem_cons] at atTables
  obtain ⟨numbers, letters, _⟩ := atTables
  simp only [isForeign, Bool.or_eq_true, decide_eq_true_eq, numbers, letters, isTilde,
    foreignTables, List.mem_cons, List.not_mem_nil, or_false, exists_eq_or_imp,
    exists_eq_left, or_assoc]

/-! ## Letters and numbers -/

/-- Tables of characters, each with those among which its characters are found. -/
def coveredTables : List (CodeRanges × List CodeRanges) :=
  [(alphabeticRanges, [idStartRanges, markRanges] ++ foreignTables),
    (numericRanges, continueTables ++ foreignTables)] ++
      foreignTables.map fun table => (table, [alphabeticRanges, numericRanges])

theorem exists_has_of_mem_coveredTables
    {table : CodeRanges}
    {others : List CodeRanges}
    (member : (table, others) ∈ coveredTables)
    {code : Nat}
    (inTable : table.Has code) :
    ∃ other ∈ others, other.Has code := by
  have covered : coveredTables.all fun (table, others) =>
      others.foldl (CodeRanges.without 2000) table = [] := by
    decide +kernel
  exact CodeRanges.exists_has_of_foldl_without 2000
    (of_decide_eq_true (List.all_eq_true.mp covered _ member)) inTable

/-- An alphabetic character starts an identifier, or it is a mark or foreign. -/
theorem isAlphabetic_cases {c : Char} (alphabetic : isAlphabetic c = true) :
    isIdStart c = true ∨ isMark c = true ∨ isForeign c = true := by
  rw [isAlphabetic, Bool.or_eq_true] at alphabetic
  rcases alphabetic with ascii | contained
  · exact Or.inl (by rw [isIdStart, ascii, Bool.true_or])
  · obtain ⟨table, member, inTable⟩ :=
      exists_has_of_mem_coveredTables (List.mem_append_left _ List.mem_cons_self)
        (CodeRanges.has_of_contains contained)
    rcases List.mem_append.mp member with letterOrMark | foreign
    · have continuing : table ∈ continueTables :=
        List.mem_append_left [decimalDigitRanges, connectorRanges] letterOrMark
      have inRanges :=
        (contains_iff_has table (mem_comparedTables_of_continue continuing) c.toNat).mpr inTable
      simp only [List.mem_cons, List.not_mem_nil, or_false] at letterOrMark
      rcases letterOrMark with rfl | rfl
      · exact Or.inl (by rw [isIdStart, inRanges, Bool.or_true])
      · exact Or.inr (Or.inl inRanges)
    · exact Or.inr (Or.inr ((isForeign_iff c).mpr ⟨table, foreign, inTable⟩))

/-- An identifier may go on with a numeric character, unless it is foreign. -/
theorem isNumeric_cases {c : Char} (numeric : isNumeric c = true) :
    isIdContinue c = true ∨ isForeign c = true := by
  rw [isNumeric, Bool.or_eq_true] at numeric
  rcases numeric with ascii | contained
  · refine Or.inl ((isIdContinue_iff c).mpr (Or.inl ?_))
    rw [Char.isAlphanum, ascii, Bool.or_true]
  · obtain ⟨table, member, inTable⟩ :=
      exists_has_of_mem_coveredTables
        (List.mem_append_left _ (List.mem_cons_of_mem _ List.mem_cons_self))
        (CodeRanges.has_of_contains contained)
    rcases List.mem_append.mp member with continuing | foreign
    · exact Or.inl ((isIdContinue_iff c).mpr (Or.inr (Or.inr ⟨table, continuing, inTable⟩)))
    · exact Or.inr ((isForeign_iff c).mpr ⟨table, foreign, inTable⟩)

/-! ## Foreign characters -/

/-- The foreign tables are apart from ASCII and from the tables of identifiers. -/
theorem not_has_of_mem_foreignTables
    {table other : CodeRanges}
    (foreign : table ∈ foreignTables)
    (native : other ∈ [(0, 127)] :: continueTables)
    {code : Nat}
    (inTable : table.Has code) :
    ¬other.Has code := by
  have separate : foreignTables.all fun table =>
      ([(0, 127)] :: continueTables).all (CodeRanges.apart 2000 table) := by
    decide +kernel
  have otherAscending : other.Ascending := by
    rcases List.mem_cons.mp native with rfl | continuing
    · exact List.pairwise_singleton _ _
    · exact ascending_of_mem (mem_comparedTables_of_continue continuing)
  exact CodeRanges.not_has_of_apart
    (ascending_of_mem (mem_comparedTables_of_foreign foreign)) otherAscending
    (List.all_eq_true.mp (List.all_eq_true.mp separate table foreign) other native) inTable

/-- No identifier has a foreign character. -/
theorem isIdContinue_eq_false_of_isForeign {c : Char} (foreign : isForeign c = true) :
    isIdContinue c = false := by
  refine eq_false_of_ne_true fun continues => ?_
  obtain ⟨table, member, inTable⟩ := (isForeign_iff c).mp foreign
  have aboveAscii : ¬c.toNat < 128 := fun ascii =>
    not_has_of_mem_foreignTables member List.mem_cons_self inTable
      ⟨(0, 127), List.mem_singleton_self _, Nat.zero_le _, Nat.le_of_lt_succ ascii⟩
  rcases (isIdContinue_iff c).mp continues with
    alphanumeric | rfl | ⟨other, continuing, inOther⟩
  · exact aboveAscii (toNat_lt_of_isAlphanum alphanumeric)
  · exact aboveAscii (by decide)
  · exact not_has_of_mem_foreignTables member (List.mem_cons_of_mem _ continuing) inTable
      inOther

/-- Foreign characters pass for letters or numbers. -/
theorem isAlphanumeric_of_isForeign {c : Char} (foreign : isForeign c = true) :
    isAlphanumeric c = true := by
  obtain ⟨table, member, inTable⟩ := (isForeign_iff c).mp foreign
  obtain ⟨ranges, among, inRanges⟩ := exists_has_of_mem_coveredTables
    (List.mem_append_right _ (List.mem_map_of_mem member)) inTable
  have compared : ranges ∈ comparedTables :=
    List.mem_append_left _ (List.mem_append_left _ among)
  have contained := (contains_iff_has ranges compared c.toNat).mpr inRanges
  simp only [List.mem_cons, List.not_mem_nil, or_false] at among
  rcases among with rfl | rfl
  · rw [isAlphanumeric, isAlphabetic, contained, Bool.or_true, Bool.true_or]
  · rw [isAlphanumeric, isNumeric, contained, Bool.or_true, Bool.or_true]

end Unicode
end TableTypes
