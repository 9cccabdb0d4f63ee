import TableTypes.Settings

/-!
# Validation of settings

Contradictory settings are refused before any column is read. The settings alone are
checked first, then every allowlisted table against the tables that exist.
-/

namespace TableTypes

/-- Why settings are refused. -/
inductive SettingsError where
  /-- An allowlisted table is not among the available ones. -/
  | missingTable (table : String)
  /-- An allowlisted table begins with an excluded beginning. -/
  | excludedTable (table beginning : String)
  /-- A table is both allowlisted and denylisted. -/
  | conflictingTable (table : String)
  | zeroMinLength
  | emptySchemaAllowlist
  | unknownCasing (text : String)
  deriving DecidableEq, Repr

namespace SettingsError

/-- The text of the error. -/
def message : SettingsError -> String
  | .missingTable table =>
      "allowlisted table '" ++ table ++ "' does not exist"
  | .excludedTable table beginning =>
      "allowlisted table '" ++ table ++ "' is excluded by prefix '" ++ beginning ++ "'"
  | .conflictingTable table =>
      "table '" ++ table ++ "' is both allowlisted and denylisted"
  | .zeroMinLength => "required string minimum length must be positive"
  | .emptySchemaAllowlist => "schema allowlist is empty"
  | .unknownCasing text => "unknown casing policy '" ++ text ++ "'"

end SettingsError

namespace Casing

/-- Read a casing as a user writes it. -/
def ofText (text : String) : Except SettingsError Casing :=
  match ofText? text with
  | some casing => .ok casing
  | none => .error (.unknownCasing text)

end Casing

namespace Settings

/-- Check what the available tables have no part in. -/
def validateValues (settings : Settings) : Except SettingsError Unit :=
  if settings.textMinLength = some 0 then
    .error .zeroMinLength
  else if settings.schemaAllowlist.any NameSet.isEmpty then
    .error .emptySchemaAllowlist
  else
    match settings.tableAllowlist, settings.tableDenylist with
    | some allowed, some denied =>
        match allowed.firstCommon? denied with
        | some table => .error (.conflictingTable table)
        | none => .ok ()
    | _, _ => .ok ()

/-- Check one allowlisted table. -/
def validateTable
    (settings : Settings)
    (available : List String)
    (table : String) : Except SettingsError Unit :=
  match settings.exclusion? table with
  | some beginning => .error (.excludedTable table beginning)
  | none => if table ∈ available then .ok () else .error (.missingTable table)

/-- Check allowlisted tables in turn, up to the first that fails. -/
def validateEach
    (settings : Settings)
    (available : List String) : List String -> Except SettingsError Unit
  | [] => .ok ()
  | table :: rest =>
      match settings.validateTable available table with
      | .error error => .error error
      | .ok () => settings.validateEach available rest

/-- Check the allowlist, in ascending order, against the available tables. -/
def validateTables
    (settings : Settings)
    (available : List String) : Except SettingsError Unit :=
  match settings.tableAllowlist with
  | none => .ok ()
  | some allowed => settings.validateEach available allowed.toList

/-- Check the settings against the available tables. -/
def validate
    (settings : Settings)
    (available : List String) : Except SettingsError Unit :=
  match settings.validateValues with
  | .error error => .error error
  | .ok () => settings.validateTables available

end Settings
end TableTypes
