import Mathlib.Data.List.Nodup
import TableTypes.Enum.Index
import TableTypes.Proofs.Enum.Registry
import TableTypes.Proofs.TableSelection

/-!
# Registration

Registering rows with an index never meets a position without an enum, and gives the
registry in which every row is put by a search. What is registered is told by the rows
alone: the enums in the order of their first rows, each with the labels of its own rows
in the order of their first occurrence. The rows of a registry give this registry again.
-/

namespace TableTypes

namespace EnumRegistry

/-- A row that names no enum opens one at the end. -/
theorem addRow_of_notMem
    {enums : List Enumeration}
    {row : EnumRow}
    (isNew : row.enumName ∉ enums.map Enumeration.name) :
    addRow row enums = enums ++ [⟨row.enumName, [row.label]⟩] := by
  induction enums with
  | nil => rfl
  | cons enumeration rest inductionHypothesis =>
      rw [List.map_cons, List.mem_cons, not_or] at isNew
      rw [addRow, if_neg (Ne.symm isNew.1), inductionHypothesis isNew.2,
        List.cons_append]

/-- A row of an enum adds its label where the enum stands. -/
theorem addRow_of_getElem?
    {enums : List Enumeration}
    (distinct : (enums.map Enumeration.name).Nodup)
    {row : EnumRow}
    {position : Nat}
    {enumeration : Enumeration}
    (present : enums[position]? = some enumeration)
    (named : enumeration.name = row.enumName) :
    addRow row enums = enums.set position (enumeration.addLabel row.label) := by
  induction enums generalizing position with
  | nil => simp at present
  | cons first rest inductionHypothesis =>
      rw [List.map_cons, List.nodup_cons] at distinct
      cases position with
      | zero =>
          obtain rfl := Option.some.inj present
          rw [addRow, if_pos named, List.set_cons_zero]
      | succ position =>
          rw [List.getElem?_cons_succ] at present
          have later : row.enumName ∈ rest.map Enumeration.name :=
            named ▸ List.mem_map_of_mem (List.mem_of_getElem? present)
          have other : first.name ≠ row.enumName := by
            rintro same
            exact distinct.1 (same ▸ later)
          rw [addRow, if_neg other, inductionHypothesis distinct.2 present,
            List.set_cons_succ]

/-- Of enums with different names the one of a name is found. -/
theorem find?_eq_some_iff
    {registry : EnumRegistry}
    (distinct : (registry.enums.map Enumeration.name).Nodup)
    (name : String)
    (enumeration : Enumeration) :
    registry.find? name = some enumeration ↔
      enumeration ∈ registry.enums ∧ enumeration.name = name := by
  constructor
  · exact fun found => ⟨List.mem_of_find?_eq_some found, name_of_find? found⟩
  · rintro ⟨member, rfl⟩
    cases found : registry.find? enumeration.name with
    | none =>
        exact absurd (decide_eq_true rfl) (List.find?_eq_none.mp found enumeration member)
    | some first =>
        exact congrArg some (List.inj_on_of_nodup_map distinct
          (List.mem_of_find?_eq_some found) member (name_of_find? found))

end EnumRegistry

namespace EnumIndex

/-- The positions are those of the enums of the names, and the labels seen of an enum
are its labels. -/
structure Consistent (index : EnumIndex) : Prop where
  positions : ∀ name position,
    index.positions.lookup name = some position ↔
      (index.enums.map Enumeration.name)[position]? = some name
  seen : index.seen = index.enums.map fun enumeration =>
    NameSet.ofList enumeration.labels

theorem consistent_empty : empty.Consistent where
  positions _ _ := by simp [empty]
  seen := rfl

namespace Consistent

variable {index : EnumIndex}

/-- A name without position is the name of no enum. -/
theorem lookup_eq_none_iff (consistent : index.Consistent) (name : String) :
    index.positions.lookup name = none ↔ name ∉ index.enums.map Enumeration.name := by
  rw [List.mem_iff_getElem?, Option.eq_none_iff_forall_ne_some, not_exists]
  exact forall_congr' fun position => not_congr (consistent.positions name position)

/-- No two enums share a name, for a name has one position. -/
theorem nodup_names (consistent : index.Consistent) :
    (index.enums.map Enumeration.name).Nodup := by
  rw [List.nodup_iff_getElem?_ne_getElem?]
  intro first second before inRange same
  have name := List.getElem?_eq_getElem inRange
  have firstPosition := (consistent.positions _ first).mpr (same.trans name)
  have secondPosition := (consistent.positions _ second).mpr name
  rw [firstPosition] at secondPosition
  exact absurd (Option.some.inj secondPosition) before.ne

/-- A new enum at the end keeps the index consistent. -/
theorem addEnum
    (consistent : index.Consistent)
    {name : String}
    (isNew : index.positions.lookup name = none) :
    (index.addEnum name).Consistent where
  positions other position := by
    have notBefore := (consistent.lookup_eq_none_iff name).mp isNew
    rw [EnumIndex.addEnum, List.map_append, List.map_singleton, List.getElem?_append,
      List.length_map]
    by_cases same : other = name
    · -- The new name stands at the end and nowhere before it.
      subst same
      have atEnd : (List.lookup other ((other, index.enums.length) :: index.positions)) =
          some index.enums.length :=
        List.lookup_cons_self
      have notThere : (index.enums.map Enumeration.name)[position]? ≠ some other :=
        fun present => notBefore (List.mem_of_getElem? present)
      rw [atEnd]
      grind
    · have asBefore : List.lookup other ((name, index.enums.length) :: index.positions) =
          index.positions.lookup other := by
        rw [List.lookup_cons, beq_eq_false_iff_ne.mpr same]
      rw [asBefore, consistent.positions]
      grind
  seen := by
    rw [EnumIndex.addEnum, List.map_append, consistent.seen]
    rfl

/-- Other labels for an enum keep the index consistent when they are those seen. -/
theorem setLabels
    (consistent : index.Consistent)
    {position : Nat}
    {enumeration : Enumeration}
    (present : index.enums[position]? = some enumeration)
    (labels : List String) :
    Consistent {
      index with
      enums := index.enums.set position { enumeration with labels := labels }
      seen := index.seen.set position (NameSet.ofList labels)
    } where
  positions name other := by
    have sameName : (index.enums.map Enumeration.name)[position]? =
        some enumeration.name := by
      rw [List.getElem?_map, present, Option.map_some]
    obtain ⟨inRange, atPosition⟩ := List.getElem?_eq_some_iff.mp sameName
    rw [consistent.positions, List.map_set, ← atPosition, List.set_getElem_self]
  seen := by
    rw [consistent.seen, List.map_set]

/-- A label for the enum at a position is added to this enum, unless the enum has it. -/
theorem addLabel?
    (consistent : index.Consistent)
    {position : Nat}
    {enumeration : Enumeration}
    (present : index.enums[position]? = some enumeration)
    (label : String) :
    ∃ next, index.addLabel? position label = some next ∧ next.Consistent ∧
      next.enums = index.enums.set position (enumeration.addLabel label) := by
  have seenThere : index.seen[position]? = some (NameSet.ofList enumeration.labels) := by
    rw [consistent.seen, List.getElem?_map, present, Option.map_some]
  have sameLabel : label ∈ NameSet.ofList enumeration.labels ↔
      label ∈ enumeration.labels :=
    NameSet.mem_ofList _ _
  by_cases known : label ∈ enumeration.labels
  · obtain ⟨inRange, rfl⟩ := List.getElem?_eq_some_iff.mp present
    refine ⟨index, ?_, consistent, ?_⟩
    · simp only [EnumIndex.addLabel?, seenThere, sameLabel, known, if_true]
    · rw [Enumeration.addLabel, if_pos known, List.set_getElem_self]
  · have withLabel : (NameSet.ofList enumeration.labels).insert label =
        NameSet.ofList (enumeration.labels ++ [label]) :=
      NameSet.eq_of_mem_iff fun name => by simp [or_comm]
    refine ⟨_, ?_, consistent.setLabels present (enumeration.labels ++ [label]), ?_⟩
    · simp only [EnumIndex.addLabel?, seenThere, sameLabel, known, if_false, present,
        withLabel]
    · rw [Enumeration.addLabel, if_neg known]

/-- A row is registered as the registry adds it. -/
theorem addRow? (consistent : index.Consistent) (row : EnumRow) :
    ∃ next, index.addRow? row = some next ∧ next.Consistent ∧
      next.enums = EnumRegistry.addRow row index.enums := by
  unfold EnumIndex.addRow?
  cases known : index.positions.lookup row.enumName with
  | some position =>
      have named := (consistent.positions row.enumName position).mp known
      rw [List.getElem?_map, Option.map_eq_some_iff] at named
      obtain ⟨enumeration, present, named⟩ := named
      rw [EnumRegistry.addRow_of_getElem? consistent.nodup_names present named]
      exact consistent.addLabel? present row.label
  | none =>
      have present : (index.addEnum row.enumName).enums[index.enums.length]? =
          some ⟨row.enumName, []⟩ :=
        List.getElem?_concat_length
      have isNew := (consistent.lookup_eq_none_iff row.enumName).mp known
      obtain ⟨next, added, nextConsistent, nextEnums⟩ :=
        (consistent.addEnum known).addLabel? present row.label
      refine ⟨next, added, nextConsistent, ?_⟩
      rw [nextEnums, EnumRegistry.addRow_of_notMem isNew, EnumIndex.addEnum,
        List.set_append_right _ _ le_rfl, Nat.sub_self]
      rfl

/-- Rows are registered one after another as the registry inserts them. -/
theorem foldlM_addRow? (consistent : index.Consistent) (rows : List EnumRow) :
    ∃ next, rows.foldlM EnumIndex.addRow? index = some next ∧ next.Consistent ∧
      next.enums = (rows.foldl EnumRegistry.insert ⟨index.enums⟩).enums := by
  induction rows generalizing index with
  | nil => exact ⟨index, rfl, consistent, rfl⟩
  | cons row rest inductionHypothesis =>
      obtain ⟨middle, added, middleConsistent, middleEnums⟩ := consistent.addRow? row
      obtain ⟨next, registered, nextConsistent, nextEnums⟩ :=
        inductionHypothesis middleConsistent
      refine ⟨next, ?_, nextConsistent, ?_⟩
      · rw [List.foldlM_cons, added]
        exact registered
      · rw [nextEnums, middleEnums]
        rfl

/-- A name is looked up through its position as the registry finds it. -/
theorem lookup?_eq (consistent : index.Consistent) (name : String) :
    index.lookup? name = some (EnumRegistry.find? ⟨index.enums⟩ name) := by
  unfold lookup?
  cases known : index.positions.lookup name with
  | none =>
      have unnamed := (consistent.lookup_eq_none_iff name).mp known
      refine congrArg some (List.find?_eq_none.mpr fun enumeration member => ?_).symm
      rw [decide_eq_true_eq]
      rintro rfl
      exact unnamed (List.mem_map_of_mem member)
  | some position =>
      have named := (consistent.positions name position).mp known
      rw [List.getElem?_map, Option.map_eq_some_iff] at named
      obtain ⟨enumeration, present, named⟩ := named
      have found : EnumRegistry.find? ⟨index.enums⟩ name = some enumeration :=
        (EnumRegistry.find?_eq_some_iff consistent.nodup_names name enumeration).mpr
          ⟨List.mem_of_getElem? present, named⟩
      simp only [present, found, Option.map_some]

end Consistent

/-- Registration with an index has a result for all rows, and it is their registry. -/
theorem ofRows?_eq_some (rows : List EnumRow) :
    ∃ index, ofRows? rows = some index ∧ index.Consistent ∧
      index.enums = (EnumRegistry.ofRows rows).enums :=
  consistent_empty.foldlM_addRow? rows

end EnumIndex

namespace EnumRow

theorem labelsOf_append (first second : List EnumRow) (name : String) :
    labelsOf (first ++ second) name = labelsOf first name ++ labelsOf second name := by
  rw [labelsOf, List.filter_append, List.map_append]
  rfl

end EnumRow

namespace Enumeration

/-- The rows that report an enum, one for each label. -/
def rows (enumeration : Enumeration) : List EnumRow :=
  enumeration.labels.map (EnumRow.mk enumeration.name)

theorem map_enumName_rows (enumeration : Enumeration) :
    enumeration.rows.map EnumRow.enumName =
      enumeration.labels.map fun _ => enumeration.name := by
  rw [rows, List.map_map]
  rfl

/-- The rows of an enum give it its labels. -/
theorem labelsOf_rows (enumeration : Enumeration) :
    EnumRow.labelsOf enumeration.rows enumeration.name = enumeration.labels := by
  have allOwn : enumeration.rows.filter (fun row => row.enumName = enumeration.name) =
      enumeration.rows := by
    rw [List.filter_eq_self, rows, List.forall_mem_map]
    exact fun _ _ => decide_eq_true rfl
  rw [EnumRow.labelsOf, allOwn, rows, List.map_map]
  exact List.map_id _

/-- The rows of an enum give nothing to an enum of another name. -/
theorem labelsOf_rows_of_ne
    {enumeration : Enumeration}
    {name : String}
    (other : name ≠ enumeration.name) :
    EnumRow.labelsOf enumeration.rows name = [] := by
  refine EnumRow.labelsOf_eq_nil_of_notMem ?_
  rw [map_enumName_rows, List.mem_map]
  rintro ⟨_, _, same⟩
  exact other same.symm

end Enumeration

namespace EnumRegistry

/-- The rows that report a registry, enum by enum. -/
def rows (registry : EnumRegistry) : List EnumRow :=
  registry.enums.flatMap Enumeration.rows

theorem map_enumName_flatMap_rows (enums : List Enumeration) :
    (enums.flatMap Enumeration.rows).map EnumRow.enumName =
      enums.flatMap fun enumeration =>
        enumeration.labels.map fun _ => enumeration.name := by
  rw [List.map_flatMap]
  exact List.flatMap_congr fun enumeration _ => enumeration.map_enumName_rows

/-- The rows of enums with different names give every enum its own labels. -/
theorem labelsOf_flatMap_rows
    {enums : List Enumeration}
    (distinct : (enums.map Enumeration.name).Nodup)
    {enumeration : Enumeration}
    (member : enumeration ∈ enums) :
    EnumRow.labelsOf (enums.flatMap Enumeration.rows) enumeration.name =
      enumeration.labels := by
  induction enums with
  | nil => cases member
  | cons first rest inductionHypothesis =>
      rw [List.map_cons, List.nodup_cons] at distinct
      rw [List.flatMap_cons, EnumRow.labelsOf_append]
      rcases List.mem_cons.mp member with rfl | later
      · have notLater : EnumRow.labelsOf (rest.flatMap Enumeration.rows)
            enumeration.name = [] := by
          refine EnumRow.labelsOf_eq_nil_of_notMem fun named => distinct.1 ?_
          rw [map_enumName_flatMap_rows, List.mem_flatMap] at named
          obtain ⟨other, otherMember, named⟩ := named
          obtain ⟨_, _, same⟩ := List.mem_map.mp named
          exact same ▸ List.mem_map_of_mem otherMember
        rw [Enumeration.labelsOf_rows, notLater, List.append_nil]
      · have other : enumeration.name ≠ first.name := by
          intro same
          exact distinct.1 (same ▸ List.mem_map_of_mem later)
        rw [Enumeration.labelsOf_rows_of_ne other, inductionHypothesis distinct.2 later,
          List.nil_append]

/-- No two enums of a registry share a name. -/
theorem nodup_names_ofRows (input : List EnumRow) :
    ((ofRows input).enums.map Enumeration.name).Nodup := by
  rw [map_name_ofRows]
  exact nodup_firstsBy_id _

/-- Every enum of a registry has a label, and none twice. -/
theorem labels_of_mem_ofRows
    {input : List EnumRow}
    {enumeration : Enumeration}
    (member : enumeration ∈ (ofRows input).enums) :
    enumeration.labels ≠ [] ∧ enumeration.labels.Nodup := by
  rw [enums_ofRows] at member
  obtain ⟨name, named, rfl⟩ := List.mem_map.mp member
  obtain ⟨row, reported, rfl⟩ := List.mem_map.mp ((mem_firstsBy_id _ name).mp named)
  have label : row.label ∈ EnumRow.labelsOf input row.enumName :=
    List.mem_map_of_mem (List.mem_filter.mpr ⟨reported, decide_eq_true rfl⟩)
  exact ⟨List.ne_nil_of_mem ((mem_firstsBy_id _ _).mpr label), nodup_firstsBy_id _⟩

/-- The rows of a registry register this registry again. -/
theorem ofRows_rows (input : List EnumRow) :
    ofRows (ofRows input).rows = ofRows input := by
  let registry := ofRows input
  have distinct : (registry.enums.map Enumeration.name).Nodup := nodup_names_ofRows input
  have labelled : registry.enums.filter (fun enumeration =>
      !(enumeration.labels.map fun _ => enumeration.name).isEmpty) = registry.enums := by
    refine List.filter_eq_self.mpr fun enumeration member => ?_
    simpa using (labels_of_mem_ofRows member).1
  have sameNames : firstsBy id (registry.rows.map EnumRow.enumName) =
      registry.enums.map Enumeration.name := by
    rw [rows, map_enumName_flatMap_rows, firstsBy_id_flatMap _ _ Enumeration.name,
      labelled]
    · exact firstsBy_eq_self distinct
    · rintro enumeration _ named
      obtain ⟨_, _, rfl⟩ := List.mem_map.mp named
      rfl
  have sameEnum (enumeration : Enumeration) (member : enumeration ∈ registry.enums) :
      (⟨enumeration.name,
        firstsBy id (EnumRow.labelsOf registry.rows enumeration.name)⟩ : Enumeration) =
          enumeration := by
    have keptAll : firstsBy id enumeration.labels = enumeration.labels :=
      firstsBy_eq_self (labels_of_mem_ofRows member).2
    rw [rows, labelsOf_flatMap_rows distinct member, keptAll]
  have sameEnums : (ofRows registry.rows).enums = registry.enums := by
    rw [enums_ofRows, sameNames, List.map_map]
    exact (List.map_congr_left sameEnum).trans (List.map_id _)
  exact congrArg EnumRegistry.mk sameEnums

/-- A registry lists the enums that its rows name, in the order of their first rows, and
each with the labels of its own rows in the order of their first occurrence, so that
every enum has a label and none twice. A name is found exactly when a row carries it,
and what is found is the enum listed under it. The rows of the registry register it
again, and registration with an index never fails and gives the same enums and the same
answers. -/
theorem ofRows_lists_reported_enums (input : List EnumRow) :
    let registry := ofRows input
    registry.enums =
        (firstOccurrences id (input.map EnumRow.enumName)).map (fun name =>
          ⟨name, firstOccurrences id (EnumRow.labelsOf input name)⟩) ∧
      (∀ enumeration ∈ registry.enums,
        enumeration.labels ≠ [] ∧ enumeration.labels.Nodup) ∧
      (∀ name, (registry.find? name).isSome = true ↔
        ∃ row ∈ input, row.enumName = name) ∧
      (∀ name enumeration, registry.find? name = some enumeration ↔
        enumeration ∈ registry.enums ∧ enumeration.name = name) ∧
      ofRows registry.rows = registry ∧
      ∃ index, EnumIndex.ofRows? input = some index ∧
        index.enums = registry.enums ∧
        ∀ name, index.lookup? name = some (registry.find? name) := by
  intro registry
  refine ⟨?_, fun _ => labels_of_mem_ofRows, fun name => ?_,
    find?_eq_some_iff (nodup_names_ofRows input), ofRows_rows input, ?_⟩
  · simp only [registry, enums_ofRows, firstsBy_eq_firstOccurrences]
  · rw [← not_iff_not, Bool.not_eq_true, Option.isSome_eq_false_iff,
      Option.isNone_iff_eq_none, find?_ofRows_eq_none_iff, List.mem_map]
  · obtain ⟨index, registered, consistent, sameEnums⟩ := EnumIndex.ofRows?_eq_some input
    refine ⟨index, registered, sameEnums, fun name => ?_⟩
    rw [consistent.lookup?_eq, sameEnums]

end EnumRegistry
end TableTypes
