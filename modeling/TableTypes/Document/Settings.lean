import TableTypes.Json.Record
import TableTypes.Json.Value
import TableTypes.Settings

/-!
# Documents of settings

The record in which settings are stored. Every field may be left out, and then has its
default value.
-/

namespace TableTypes

open Json

namespace Casing

/-- The names of casings in documents. -/
def variants : List (String × Casing) :=
  [
    ("verbatim", .verbatim),
    ("camel", .camel),
    ("camelcase", .camel),
    ("pascal", .pascal),
    ("pascalcase", .pascal)
  ]

/-- Read a casing document. -/
def reader : Reader Casing :=
  Reader.variant variants

/-- The document of a casing. -/
def toJson (casing : Casing) : Value :=
  .text casing.name

end Casing

namespace NameSet

/-- Read a list of names as a set. -/
def reader : Reader NameSet :=
  return ofList (← Reader.list Reader.text)

/-- The document of a set: its names in ascending order. -/
def toJson (names : NameSet) : Value :=
  .ofList .text names.toList

end NameSet

namespace Settings

/-- The fields of a settings document. -/
def fields : List (RecordField Settings) :=
  [
    .defaulted "casing" Casing.reader fun casing settings => { settings with casing },
    .defaulted "table_allowlist" (Reader.nullable NameSet.reader)
      fun tableAllowlist settings => { settings with tableAllowlist },
    .defaulted "table_denylist" (Reader.nullable NameSet.reader)
      fun tableDenylist settings => { settings with tableDenylist },
    .defaulted "schema_allowlist" (Reader.nullable NameSet.reader)
      fun schemaAllowlist settings => { settings with schemaAllowlist },
    .defaulted "required_string_min_length" (Reader.nullable Reader.uint32)
      fun textMinLength settings => { settings with textMinLength },
    .defaulted "excluded_table_prefixes" (Reader.list Reader.text)
      fun excludedPrefixes settings => { settings with excludedPrefixes }
  ]

/-- Read a settings document. -/
def reader : Reader Settings :=
  Reader.record "GenerationConfig" fields {}

/-- The document of settings. -/
def toJson (settings : Settings) : Value :=
  .record [
    ("casing", settings.casing.toJson),
    ("table_allowlist", .ofOption NameSet.toJson settings.tableAllowlist),
    ("table_denylist", .ofOption NameSet.toJson settings.tableDenylist),
    ("schema_allowlist", .ofOption NameSet.toJson settings.schemaAllowlist),
    ("required_string_min_length",
      .ofOption (fun length => .integer length.toNat) settings.textMinLength),
    ("excluded_table_prefixes", .ofList .text settings.excludedPrefixes)
  ]

end Settings
end TableTypes
