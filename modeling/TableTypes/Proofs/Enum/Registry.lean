import Mathlib.Data.List.Induction
import TableTypes.Enum.Registry
import TableTypes.Proofs.FirstOccurrence

/-!
# What a registry holds

A registry holds every enum name of its rows once, in the order in which the
names first occur. Later rows of a known enum never move or repeat it. The labels
of an enum are those of its own rows, each at its first occurrence, in whatever
way the rows of different enums are mixed.
-/

namespace TableTypes

namespace EnumRow

/-- The labels that rows give to an enum. -/
def labelsOf (rows : List EnumRow) (name : String) : List String :=
  (rows.filter fun row => row.enumName = name).map EnumRow.label

/-- A further row gives its label to the enum that it names. -/
theorem labelsOf_append_singleton
    (rows : List EnumRow)
    (row : EnumRow)
    (name : String) :
    labelsOf (rows ++ [row]) name =
      if row.enumName = name then labelsOf rows name ++ [row.label]
      else labelsOf rows name := by
  unfold labelsOf
  by_cases same : row.enumName = name <;> simp [same]

/-- No row gives a label to an enum that no row names. -/
theorem labelsOf_eq_nil_of_notMem
    {rows : List EnumRow}
    {name : String}
    (unnamed : name ∉ rows.map EnumRow.enumName) :
    labelsOf rows name = [] := by
  unfold labelsOf
  rw [List.map_eq_nil_iff, List.filter_eq_nil_iff]
  intro row member same
  exact unnamed (List.mem_map.mpr ⟨row, member, of_decide_eq_true same⟩)

end EnumRow

namespace EnumRegistry

/-- A row adds its label to the enum of its name, and otherwise an enum that has
no other label. -/
theorem addRow_map
    (row : EnumRow)
    (labels : String -> List String)
    {names : List String}
    (distinct : names.Nodup) :
    addRow row (names.map fun name => ⟨name, labels name⟩) =
      if row.enumName ∈ names then
        names.map fun name =>
          if name = row.enumName then
            (⟨name, labels name⟩ : Enumeration).addLabel row.label
          else ⟨name, labels name⟩
      else
        (names.map fun name => ⟨name, labels name⟩)
          ++ [⟨row.enumName, [row.label]⟩] := by
  induction names with
  | nil => rfl
  | cons name rest inductionHypothesis =>
      obtain ⟨notLater, restDistinct⟩ := List.nodup_cons.mp distinct
      rw [List.map_cons, addRow]
      by_cases same : name = row.enumName
      · -- The enum is found here, and no later one has its name.
        have others : ∀ later ∈ rest, later ≠ row.enumName := by
          rintro later member rfl
          exact notLater (same ▸ member)
        have unchanged :
            (rest.map fun later =>
              if later = row.enumName then
                (⟨later, labels later⟩ : Enumeration).addLabel row.label
              else ⟨later, labels later⟩) =
              rest.map fun later => ⟨later, labels later⟩ :=
          List.map_congr_left fun later member => if_neg (others later member)
        rw [if_pos same, if_pos (same ▸ List.mem_cons_self), List.map_cons,
          if_pos same, unchanged]
      · rw [if_neg same, inductionHypothesis restDistinct]
        by_cases known : row.enumName ∈ rest
        · rw [if_pos known, if_pos (List.mem_cons_of_mem name known),
            List.map_cons, if_neg same]
        · have isNew : row.enumName ∉ name :: rest :=
            List.not_mem_cons_of_ne_of_not_mem (Ne.symm same) known
          rw [if_neg known, if_neg isNew, List.cons_append]

/-- An enum that has the labels of its rows takes the label of a further row. -/
theorem addLabel_labelsOf (rows : List EnumRow) (row : EnumRow) :
    (⟨row.enumName, firstsBy id (EnumRow.labelsOf rows row.enumName)⟩ :
        Enumeration).addLabel row.label =
      ⟨row.enumName,
        firstsBy id (EnumRow.labelsOf (rows ++ [row]) row.enumName)⟩ := by
  rw [EnumRow.labelsOf_append_singleton, if_pos rfl,
    firstsBy_id_append_singleton, Enumeration.addLabel]
  simp only [mem_firstsBy_id]
  split <;> rfl

/-- A registry holds the enums that its rows name, each at its first row and with
the labels of its rows, each at its first occurrence. -/
theorem enums_ofRows (rows : List EnumRow) :
    (ofRows rows).enums =
      (firstsBy id (rows.map EnumRow.enumName)).map fun name =>
        ⟨name, firstsBy id (EnumRow.labelsOf rows name)⟩ := by
  -- Rows are registered from the first to the last, so the last one is split off.
  induction rows using List.reverseRecOn with
  | nil => rfl
  | append_singleton rows row inductionHypothesis =>
      have registered :
          (ofRows (rows ++ [row])).enums = addRow row (ofRows rows).enums := by
        rw [ofRows, List.foldl_append]
        rfl
      have sameLabels (name : String) (other : name ≠ row.enumName) :
          EnumRow.labelsOf (rows ++ [row]) name = EnumRow.labelsOf rows name := by
        rw [EnumRow.labelsOf_append_singleton, if_neg other.symm]
      rw [registered, inductionHypothesis,
        addRow_map row (fun name => firstsBy id (EnumRow.labelsOf rows name))
          (nodup_firstsBy_id (rows.map EnumRow.enumName)),
        List.map_append, List.map_singleton, firstsBy_id_append_singleton]
      simp only [mem_firstsBy_id]
      by_cases known : row.enumName ∈ rows.map EnumRow.enumName
      · rw [if_pos known, if_pos known]
        refine List.map_congr_left fun name _ => ?_
        by_cases same : name = row.enumName
        · rw [if_pos same, same, addLabel_labelsOf]
        · rw [if_neg same, sameLabels name same]
      · have onlyLabel : EnumRow.labelsOf (rows ++ [row]) row.enumName =
            [row.label] := by
          rw [EnumRow.labelsOf_append_singleton, if_pos rfl,
            EnumRow.labelsOf_eq_nil_of_notMem known, List.nil_append]
        rw [if_neg known, if_neg known, List.map_append, List.map_singleton,
          onlyLabel]
        refine congrArg₂ _ (List.map_congr_left fun name member => ?_) rfl
        rw [sameLabels]
        rintro rfl
        exact known ((mem_firstsBy_id _ _).mp member)

/-- The enums of a registry are named by the names of the rows, each at its
first occurrence. -/
theorem map_name_ofRows (rows : List EnumRow) :
    (ofRows rows).enums.map Enumeration.name =
      firstsBy id (rows.map EnumRow.enumName) := by
  rw [enums_ofRows, List.map_map]
  exact List.map_id _

/-- An enum is found by its name. -/
theorem name_of_find?
    {registry : EnumRegistry}
    {name : String}
    {enumeration : Enumeration}
    (found : registry.find? name = some enumeration) :
    enumeration.name = name :=
  of_decide_eq_true (List.find?_some found :)

/-- An enum is found exactly when a row names it. -/
theorem find?_ofRows_eq_none_iff (rows : List EnumRow) (name : String) :
    (ofRows rows).find? name = none ↔ name ∉ rows.map EnumRow.enumName := by
  have sameNames := mem_firstsBy_id (rows.map EnumRow.enumName) name
  rw [← map_name_ofRows] at sameNames
  rw [← sameNames, find?, List.find?_eq_none]
  simp

end EnumRegistry
end TableTypes
