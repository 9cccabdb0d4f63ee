import TableTypes.Casing.Words

/-!
# Casing of emitted names

Every name of a run is emitted under one casing: as reported, in camel case or in Pascal
case.
-/

namespace TableTypes

/-- The casing of the emitted names of a run. -/
inductive Casing where
  | verbatim
  | camel
  | pascal
  deriving DecidableEq, Repr, Inhabited

namespace Casing

/-- The characters of a name under a casing. -/
def recase : Casing -> List Char -> List Char
  | .verbatim, name => name
  | .pascal, name => (words name).flatMap capitalize
  | .camel, name =>
      match words name with
      | [] => []
      | first :: others => Unicode.lowercase first ++ others.flatMap capitalize

/-- A name under a casing. -/
def apply (casing : Casing) (name : String) : String :=
  String.ofList (casing.recase name.toList)

@[simp] theorem apply_verbatim (name : String) :
    Casing.verbatim.apply name = name :=
  String.ofList_toList

/-- The name of a casing in documents. -/
def name : Casing -> String
  | .verbatim => "verbatim"
  | .camel => "camel"
  | .pascal => "pascal"

/-- Read a casing as a user writes it, in any letter case. -/
def ofText? (text : String) : Option Casing :=
  match String.ofList (Unicode.lowercase text.toList) with
  | "verbatim" | "none" => some .verbatim
  | "camel" | "camelcase" => some .camel
  | "pascal" | "pascalcase" => some .pascal
  | _ => none

end Casing
end TableTypes
