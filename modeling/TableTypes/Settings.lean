import TableTypes.Casing
import TableTypes.NameSet

/-!
# Settings of a run

Settings say how names are cased, which schemas and tables take part, and how short a
required text may be. Table selection filters by the beginnings of names, the allowlist
and the denylist.
-/

namespace TableTypes

/-- The settings of a run. A list that is not given allows every table and denies none. -/
structure Settings where
  casing : Casing := .verbatim
  tableAllowlist : Option NameSet := none
  tableDenylist : Option NameSet := none
  schemaAllowlist : Option NameSet := none
  /-- The least length of a text column that is not nullable. -/
  textMinLength : Option UInt32 := none
  /-- Tables whose names begin with one of these are skipped. -/
  excludedPrefixes : List String := ["knex_"]
  deriving DecidableEq, Repr, Inhabited

namespace Settings

/-- The schema that is read when no schema allowlist is given. -/
def defaultSchema : String :=
  "public"

/-- The schemas that a run reads. -/
def schemas (settings : Settings) : NameSet :=
  settings.schemaAllowlist.getD (NameSet.ofList [defaultSchema])

/-- The first excluded beginning that a table name has. The empty beginning excludes
nothing. -/
def exclusion? (settings : Settings) (table : String) : Option String :=
  settings.excludedPrefixes.find? fun beginning =>
    !beginning.isEmpty && beginning.toList.isPrefixOf table.toList

/-- A table passes the three filters. -/
def admits (settings : Settings) (table : String) : Bool :=
  (settings.exclusion? table).isNone
    && settings.tableAllowlist.all (fun allowed => table ∈ allowed)
    && !settings.tableDenylist.any (fun denied => table ∈ denied)

/-- The tables that pass the filters, ascending and without repetition. -/
def chosenTables (settings : Settings) (tables : List String) : List String :=
  (NameSet.ofList (tables.filter settings.admits)).toList

@[simp] theorem mem_chosenTables
    (settings : Settings)
    (tables : List String)
    (table : String) :
    table ∈ settings.chosenTables tables ↔
      table ∈ tables ∧ settings.admits table = true := by
  simp [chosenTables]

theorem pairwise_chosenTables
    (settings : Settings)
    (tables : List String) :
    (settings.chosenTables tables).Pairwise (· < ·) :=
  (NameSet.ofList (tables.filter settings.admits)).ascending

/-- No table is chosen twice. -/
theorem nodup_chosenTables (settings : Settings) (tables : List String) :
    (settings.chosenTables tables).Nodup :=
  (settings.pairwise_chosenTables tables).imp Std.ne_of_lt

end Settings
end TableTypes
