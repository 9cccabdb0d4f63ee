import TableTypes.FirstOccurrence
import TableTypes.NameSet

/-!
# Reported columns

What introspection reports about one column, before its type is understood. Repeated
reports are dropped in one walk over them, in which a set of the names seen so far tells
whether a report repeats an earlier one.
-/

namespace TableTypes

/-- A column as reported. -/
structure Column where
  /-- The owning table. -/
  table : String
  name : String
  /-- The type text, such as `character varying` or `int(11) unsigned`. -/
  typeText : String
  isNullable : Bool := false
  isUnsigned : Bool := false
  /-- The enum behind a user-defined type. -/
  enumName : Option String := none
  deriving DecidableEq, Repr

namespace Column

/-- The type text reported for columns of an enum type. -/
def enumTypeText : String :=
  "USER-DEFINED"

/-- Two texts are equal when the case of ASCII letters is ignored. -/
def sameText (left right : String) : Bool :=
  left.toLower == right.toLower

/-- Read one row of the column catalogue. Nullability is the text `YES` or `NO`, a type
text that ends in ` unsigned` marks an unsigned number, and the underlying type names the
enum of a user-defined column. -/
def ofCatalogue
    (table name dataType nullability : String)
    (underlyingType : Option String) : Column where
  table := table
  name := name
  typeText := dataType
  isNullable := sameText nullability "YES"
  isUnsigned := " unsigned".toList.isSuffixOf dataType.toLower.toList
  enumName := if sameText dataType enumTypeText then underlyingType else none

/-- The name of a column with its table. -/
def dottedName (column : Column) : String :=
  column.table ++ "." ++ column.name

/-- Keep the first report of each column name. -/
def keepFirst (columns : List Column) : List Column :=
  firstsBy Column.name columns

/-! ## One walk -/

/-- The names that a walk over columns has seen, and the columns that it has kept. -/
structure Sieve where
  seen : NameSet
  kept : List Column
  deriving Repr

namespace Sieve

/-- The sieve before the walk. -/
def empty : Sieve :=
  ⟨.empty, []⟩

/-- The next column of the walk is kept when its name is new. -/
def put (sieve : Sieve) (column : Column) : Sieve :=
  if column.name ∈ sieve.seen then sieve
  else ⟨sieve.seen.insert column.name, sieve.kept ++ [column]⟩

/-- The sieve after a walk over a list of columns. -/
def ofColumns (columns : List Column) : Sieve :=
  columns.foldl put empty

end Sieve
end Column
end TableTypes
