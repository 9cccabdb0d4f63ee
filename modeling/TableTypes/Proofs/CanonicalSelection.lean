import TableTypes.Proofs.TableSelection
import TableTypes.Proofs.Unicode.ByteOrder

/-!
# The selection of tables as a set

The selected tables are listed in the order of their bytes and without repetition, so the
list shows which names are selected and nothing else: it is the same for every list of the
same available names, and for its own list. A stricter filter keeps a part of the list in
place.
-/

namespace TableTypes
namespace Settings

/-- No excluded beginning fits a table when none but the empty one is in front of its
name. -/
theorem exclusion?_eq_none_iff (settings : Settings) (table : String) :
    settings.exclusion? table = none ↔
      ∀ beginning ∈ settings.excludedPrefixes,
        beginning ≠ "" -> ¬beginning.toList <+: table.toList := by
  simp [exclusion?, List.find?_eq_none]

/-- The denylist of the settings has a table. -/
def Denies (settings : Settings) (table : String) : Prop :=
  ∃ denied, settings.tableDenylist = some denied ∧ table ∈ denied

/-- A table is admitted when no excluded beginning fits it, an allowlist has it and no
denylist has it. -/
theorem admits_iff_filters (settings : Settings) (table : String) :
    settings.admits table = true ↔
      (∀ beginning ∈ settings.excludedPrefixes,
        beginning ≠ "" -> ¬beginning.toList <+: table.toList) ∧
      (∀ allowed, settings.tableAllowlist = some allowed -> table ∈ allowed) ∧
      ¬settings.Denies table := by
  rw [admits_iff, exclusion?_eq_none_iff]
  simp [Denies]

/-! ## Lists of selected tables -/

/-- Lists of the same available names have the same selection. -/
theorem chosenTables_eq_of_mem_iff
    (settings : Settings)
    {tables others : List String}
    (same : ∀ table, table ∈ others ↔ table ∈ tables) :
    settings.chosenTables others = settings.chosenTables tables := by
  refine congrArg NameSet.toList (NameSet.eq_of_mem_iff fun table => ?_)
  rw [NameSet.mem_ofList, NameSet.mem_ofList, List.mem_filter, List.mem_filter, same]

/-- Selected tables are all selected again. -/
theorem chosenTables_chosenTables (settings : Settings) (tables : List String) :
    settings.chosenTables (settings.chosenTables tables) =
      settings.chosenTables tables := by
  refine congrArg NameSet.toList (NameSet.eq_of_mem_iff fun table => ?_)
  simp

/-- Settings that admit less select a part of the tables, in the same order. -/
theorem chosenTables_sublist_of_admits
    {stricter settings : Settings}
    (admitted : ∀ table, stricter.admits table = true -> settings.admits table = true)
    (tables : List String) :
    (stricter.chosenTables tables).Sublist (settings.chosenTables tables) := by
  have subset : stricter.chosenTables tables ⊆ settings.chosenTables tables := by
    intro table chosen
    rw [mem_chosenTables] at chosen ⊢
    exact ⟨chosen.1, admitted table chosen.2⟩
  have antisymmetric : Std.Antisymm fun first second : String => first < second :=
    ⟨fun _ _ below above => absurd above (String.lt_asymm below)⟩
  exact List.sublist_of_subperm_of_pairwise
    (List.subperm_of_subset (stricter.nodup_chosenTables tables) subset)
    (stricter.pairwise_chosenTables tables) (settings.pairwise_chosenTables tables)

/-- The selected tables are in the order of their bytes, without repetition. They are the
available tables that pass the three filters. They depend on the set of available names
alone, and they are selected again from themselves. A larger denylist or more excluded
beginnings only take tables away, and a larger allowlist only adds tables. -/
theorem chosenTables_canonical (settings : Settings) (tables : List String) :
    (settings.chosenTables tables).Pairwise
        (fun first second => Unicode.utf8Bytes first < Unicode.utf8Bytes second) ∧
      (∀ table, table ∈ settings.chosenTables tables ↔
        table ∈ tables ∧
          (∀ beginning ∈ settings.excludedPrefixes,
            beginning ≠ "" -> ¬beginning.toList <+: table.toList) ∧
          (∀ allowed, settings.tableAllowlist = some allowed -> table ∈ allowed) ∧
          ¬settings.Denies table) ∧
      (∀ others, (∀ table, table ∈ others ↔ table ∈ tables) ->
        settings.chosenTables others = settings.chosenTables tables) ∧
      settings.chosenTables (settings.chosenTables tables) =
        settings.chosenTables tables ∧
      (∀ denied, (∀ table, settings.Denies table -> table ∈ denied) ->
        ({ settings with tableDenylist := some denied }.chosenTables tables).Sublist
          (settings.chosenTables tables)) ∧
      (∀ beginnings, settings.excludedPrefixes ⊆ beginnings ->
        ({ settings with excludedPrefixes := beginnings }.chosenTables tables).Sublist
          (settings.chosenTables tables)) ∧
      (∀ allowed larger, settings.tableAllowlist = some allowed ->
        (∀ table ∈ allowed, table ∈ larger) ->
          (settings.chosenTables tables).Sublist
            ({ settings with tableAllowlist := some larger }.chosenTables tables)) := by
  refine ⟨(settings.pairwise_chosenTables tables).imp Unicode.utf8Bytes_lt_of_lt,
    fun table => ?_, fun others => settings.chosenTables_eq_of_mem_iff,
    settings.chosenTables_chosenTables tables, fun denied larger => ?_,
    fun beginnings more => ?_, fun allowed larger allowlisted more => ?_⟩
  · rw [mem_chosenTables, admits_iff_filters]
  · refine chosenTables_sublist_of_admits (fun table admitted => ?_) tables
    obtain ⟨notExcluded, isAllowed, notDenied⟩ := (admits_iff_filters _ _).mp admitted
    exact (settings.admits_iff_filters table).mpr
      ⟨notExcluded, isAllowed, fun denies => notDenied ⟨denied, rfl, larger table denies⟩⟩
  · refine chosenTables_sublist_of_admits (fun table admitted => ?_) tables
    obtain ⟨notExcluded, isAllowed, notDenied⟩ := (admits_iff_filters _ _).mp admitted
    exact (settings.admits_iff_filters table).mpr
      ⟨fun beginning member => notExcluded beginning (more member), isAllowed, notDenied⟩
  · refine chosenTables_sublist_of_admits (fun table admitted => ?_) tables
    obtain ⟨notExcluded, isAllowed, notDenied⟩ :=
      (settings.admits_iff_filters table).mp admitted
    refine (admits_iff_filters _ _).mpr ⟨notExcluded, ?_, notDenied⟩
    rintro _ ⟨rfl⟩
    exact more table (isAllowed allowed allowlisted)

/-- A larger denylist takes a selected table away, and a larger allowlist adds one, among
tables that are listed twice or excluded by a beginning. -/
theorem posts_users_selection_varies :
    let settings : Settings := {
      tableAllowlist := some (NameSet.ofList ["users", "posts", "tags"])
      tableDenylist := some (NameSet.ofList ["tags"])
      excludedPrefixes := ["", "knex_"]
    }
    let tables := ["users", "knex_lock", "posts", "tags", "users", "Änderungen"]
    let denied := NameSet.ofList ["posts", "tags"]
    let larger := NameSet.ofList ["users", "posts", "tags", "Änderungen", "knex_lock"]
    (∀ table, settings.Denies table -> table ∈ denied) ∧
      settings.chosenTables tables = ["posts", "users"] ∧
      { settings with tableDenylist := some denied }.chosenTables tables = ["users"] ∧
      ["users"].Sublist (settings.chosenTables tables) ∧
      { settings with tableAllowlist := some larger }.chosenTables tables =
        ["posts", "users", "Änderungen"] ∧
      (settings.chosenTables tables).Sublist ["posts", "users", "Änderungen"] := by
  intro settings tables denied larger
  have deniedMore : ∀ table, settings.Denies table -> table ∈ denied := by
    rintro table ⟨_, ⟨rfl⟩, member⟩
    rw [NameSet.mem_ofList, List.mem_singleton] at member
    rw [NameSet.mem_ofList, member]
    decide
  have allowedMore :
      ∀ table ∈ NameSet.ofList ["users", "posts", "tags"], table ∈ larger := by
    intro table member
    rw [NameSet.mem_ofList] at member ⊢
    exact List.mem_append_left ["Änderungen", "knex_lock"] member
  have fewer :
      { settings with tableDenylist := some denied }.chosenTables tables = ["users"] := by
    decide +kernel
  have more : { settings with tableAllowlist := some larger }.chosenTables tables =
      ["posts", "users", "Änderungen"] := by
    decide +kernel
  obtain ⟨_, _, _, _, deny, _, allow⟩ := chosenTables_canonical settings tables
  exact ⟨deniedMore, by decide +kernel, fewer, fewer ▸ deny denied deniedMore, more,
    more ▸ allow _ larger rfl allowedMore⟩

end Settings
end TableTypes
