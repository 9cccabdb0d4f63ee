import TableTypes.Column
import TableTypes.Proofs.FirstOccurrence

/-!
# Repeated columns

Of the reports of one column name the first is kept, as it is. One walk with a set of the
names seen finds the same columns, for at every step it has seen the names and kept the
first reports of the columns before it.
-/

namespace TableTypes
namespace Column

namespace Sieve

/-- The sieve has seen the names of the columns walked over, and it has kept the first
reports. -/
structure Follows (sieve : Sieve) (walked : List Column) : Prop where
  mem_seen_iff : ∀ name, name ∈ sieve.seen ↔ name ∈ walked.map Column.name
  kept : sieve.kept = keepFirst walked

theorem follows_empty : empty.Follows [] where
  mem_seen_iff _ := by simp [empty, NameSet.empty, ← NameSet.mem_toList]
  kept := rfl

namespace Follows

variable {sieve : Sieve} {walked : List Column}

/-- The sieve follows the walk over one more column. -/
theorem put (follows : sieve.Follows walked) (column : Column) :
    (sieve.put column).Follows (walked ++ [column]) := by
  by_cases known : column.name ∈ sieve.seen
  · have repeated := (follows.mem_seen_iff column.name).mp known
    rw [Sieve.put, if_pos known]
    refine ⟨fun name => ?_, ?_⟩
    · rw [follows.mem_seen_iff, List.map_append, List.map_singleton, List.mem_append,
        List.mem_singleton]
      exact ⟨Or.inl, fun member => member.elim id fun same => same ▸ repeated⟩
    · rw [follows.kept, keepFirst, keepFirst, firstsBy_append_singleton, if_pos repeated]
  · have isNew := mt (follows.mem_seen_iff column.name).mpr known
    rw [Sieve.put, if_neg known]
    refine ⟨fun name => ?_, ?_⟩
    · rw [NameSet.mem_insert, follows.mem_seen_iff, List.map_append, List.map_singleton,
        List.mem_append, List.mem_singleton, or_comm]
    · rw [follows.kept, keepFirst, keepFirst, firstsBy_append_singleton, if_neg isNew]

/-- The sieve follows the walk to its end. -/
theorem foldl_put (follows : sieve.Follows walked) (columns : List Column) :
    (columns.foldl Sieve.put sieve).Follows (walked ++ columns) := by
  induction columns generalizing sieve walked with
  | nil => rwa [List.append_nil]
  | cons column rest inductionHypothesis =>
      have following := inductionHypothesis (follows.put column)
      rwa [List.append_assoc] at following

end Follows

/-- One walk keeps the first reports. -/
theorem kept_ofColumns (columns : List Column) :
    (ofColumns columns).kept = keepFirst columns :=
  (follows_empty.foldl_put columns).kept

end Sieve

/-- What is kept of a list of columns are those at whose positions their names occur for
the first time: they stay in order, no two share a name, every name is kept, and a column
is kept exactly when a search for its name finds it with all that it reports. Of columns
that follow others those of new names are added, columns that were kept are kept again,
and one walk over the columns keeps the same. -/
theorem keepFirst_keeps_first_reports (columns : List Column) :
    let kept := keepFirst columns
    kept = firstOccurrences Column.name columns ∧
      kept.Sublist columns ∧
      (kept.map Column.name).Nodup ∧
      (∀ name, name ∈ kept.map Column.name ↔ name ∈ columns.map Column.name) ∧
      (∀ column, column ∈ kept ↔
        columns.find? (fun other => other.name = column.name) = some column) ∧
      (∀ later, keepFirst (columns ++ later) =
        kept ++ (keepFirst later).filter fun column =>
          column.name ∉ columns.map Column.name) ∧
      keepFirst kept = kept ∧
      (Sieve.ofColumns columns).kept = kept := by
  intro kept
  have inOrder : kept.Sublist columns := firstsBy_sublist Column.name columns
  have distinct : kept.Pairwise fun first second => first.name ≠ second.name :=
    firstsBy_pairwise Column.name columns
  exact ⟨firstsBy_eq_firstOccurrences Column.name columns, inOrder,
    List.pairwise_map.mpr distinct, mem_map_firstsBy Column.name columns,
    mem_firstsBy_iff Column.name columns, firstsBy_append Column.name columns,
    firstsBy_eq_self distinct, Sieve.kept_ofColumns columns⟩

/-- A later report is dropped even when it says something else. -/
example :
    keepFirst [
      { table := "posts", name := "title", typeText := "text" },
      { table := "posts", name := "id", typeText := "uuid" },
      { table := "posts", name := "title", typeText := "integer", isNullable := true }
    ] = [
      { table := "posts", name := "title", typeText := "text" },
      { table := "posts", name := "id", typeText := "uuid" }
    ] := by
  decide

end Column
end TableTypes
