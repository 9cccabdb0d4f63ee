import TableTypes.Document.Column
import TableTypes.Document.Settings
import TableTypes.Document.Snapshot
import TableTypes.Proofs.Document.RecordCodec
import TableTypes.Proofs.TableSelection

/-!
# Documents that are read back

What is stored for a snapshot, for settings, for a column or for an enum row reads as
that value, also when members are given in another order or members with a default value
are left out, in the records of a snapshot as in the snapshot itself. The defaults are
stated here as they stand in documents.
-/

namespace TableTypes

open Json

/-! ## Arranged documents -/

namespace CatalogueRow

/-- The members of the document of a catalogue row. -/
def forms : List MemberForm :=
  [
    ⟨"name", none, Eq⟩,
    ⟨"data_type", none, Eq⟩,
    ⟨"is_nullable", some (.text "NO"), Eq⟩,
    ⟨"udt_name", some .null, Eq⟩
  ]

end CatalogueRow

namespace CapturedTable

/-- The members of the document of a table. -/
def forms : List MemberForm :=
  [
    ⟨"schema", some (.text "public"), Eq⟩,
    ⟨"name", none, Eq⟩,
    ⟨"columns", some (.list []), ArrangesList (ArrangesRecord CatalogueRow.forms)⟩
  ]

end CapturedTable

namespace CapturedEnum

/-- The members of the document of an enum. -/
def forms : List MemberForm :=
  [
    ⟨"schema", some (.text "public"), Eq⟩,
    ⟨"name", none, Eq⟩,
    ⟨"values", some (.list []), Eq⟩,
    ⟨"labels", some .null, Eq⟩
  ]

end CapturedEnum

namespace Snapshot

/-- The members of the document of a snapshot. -/
def forms : List MemberForm :=
  [
    ⟨"tables", some (.list []), ArrangesList (ArrangesRecord CapturedTable.forms)⟩,
    ⟨"enums", some (.list []), ArrangesList (ArrangesRecord CapturedEnum.forms)⟩
  ]

end Snapshot

namespace Settings

/-- The members of a settings document. -/
def forms : List MemberForm :=
  [
    ⟨"casing", some (.text "verbatim"), Eq⟩,
    ⟨"table_allowlist", some .null, Eq⟩,
    ⟨"table_denylist", some .null, Eq⟩,
    ⟨"schema_allowlist", some .null, Eq⟩,
    ⟨"required_string_min_length", some .null, Eq⟩,
    ⟨"excluded_table_prefixes", some (.list [.text "knex_"]), Eq⟩
  ]

end Settings

namespace Column

/-- The members of a column document. -/
def forms : List MemberForm :=
  [
    ⟨"table_name", none, Eq⟩,
    ⟨"column_name", none, Eq⟩,
    ⟨"raw_type", none, Eq⟩,
    ⟨"is_nullable", some (.boolean false), Eq⟩,
    ⟨"is_unsigned", some (.boolean false), Eq⟩,
    ⟨"enum_ref", some .null, Eq⟩
  ]

end Column

namespace EnumRow

/-- The members of an enum row document. -/
def forms : List MemberForm :=
  [
    ⟨"enum_name", none, Eq⟩,
    ⟨"value", none, Eq⟩
  ]

end EnumRow

/-! ## Codecs of single values -/

namespace Json.Codec

/-- Texts as literals. -/
def text : Codec String :=
  exact Reader.text .text Reads.text

/-- Lists of texts. -/
def texts : Codec (List String) :=
  exact (Reader.list Reader.text) (Value.ofList .text) text.list.reads_self

/-- Truth values. -/
def boolean : Codec Bool :=
  exact Reader.boolean .boolean Reads.boolean

/-- Numbers of 32 bits in decimal digits. -/
def uint32 : Codec UInt32 :=
  exact Reader.uint32 (fun value => .integer value.toNat) Reads.uint32

end Json.Codec

namespace Casing

/-- The name of a casing reads as this casing. -/
theorem reads_toJson (casing : Casing) :
    Reads reader casing.toJson.chars casing := by
  intro rest _
  change Reader.variant variants ('"' :: casing.name.toList.flatMap escapeText ++ ['"'] ++ rest)
    = _
  rw [List.append_assoc, List.cons_append, List.singleton_append, Reader.variant,
    Reader.bind_eq (Reader.demand_cons rfl _)]
  simp only
  rw [Reader.bind_eq (rfl : Reader.advance _ = .ok ((), _)), List.tail_cons,
    Reader.bind_eq (textBody_escaped casing.name rest)]
  cases casing <;> rfl

/-- Casings by their names. -/
def codec : Codec Casing :=
  .exact reader toJson reads_toJson

end Casing

namespace NameSet

/-- The set of the names of a set is this set. -/
theorem ofList_toList (names : NameSet) : ofList names.toList = names :=
  eq_of_mem_iff fun name => mem_ofList names.toList name

/-- The names of a set in ascending order read as the set. -/
theorem reads_toJson (names : NameSet) :
    Reads reader names.toJson.chars names := by
  intro rest closes
  have readNames :
      Reader.list Reader.text (names.toJson.chars ++ rest) = .ok (names.toList, rest) :=
    Codec.texts.reads_self names.toList rest closes
  rw [reader, Reader.bind_eq readNames, ofList_toList]
  rfl

/-- Sets as ascending lists of names. -/
def codec : Codec NameSet :=
  .exact reader toJson reads_toJson

end NameSet

/-! ## Codecs of records -/

namespace CatalogueRow

/-- The fields of a catalogue row with their documents. -/
def parts : List (FieldCodec CatalogueRow { name := "", dataType := "" }) :=
  [
    .required "name" .text name fun name column => { column with name },
    .required "data_type" .text dataType fun dataType column => { column with dataType },
    .defaulted "is_nullable" .text isNullable (fun isNullable column =>
      { column with isNullable }) rfl,
    .defaulted "udt_name" (.nullable .text nofun) underlyingType
      (fun underlyingType column => { column with underlyingType }) rfl
  ]

theorem covers_parts : FieldCodec.Covers parts where
  distinct := by decide
  copy_copy := by simp [parts, FieldCodec.required, FieldCodec.defaulted]
  copy_comm := by simp [parts, FieldCodec.required, FieldCodec.defaulted]
  copy_all _ _ := rfl

/-- Documents of catalogue rows. -/
def codec : Codec CatalogueRow :=
  .record "SnapshotColumn" parts covers_parts

end CatalogueRow

namespace CapturedTable

/-- The fields of a table with their documents. -/
def parts : List (FieldCodec CapturedTable { name := "" }) :=
  [
    .defaulted "schema" .text schema (fun schema table => { table with schema }) rfl,
    .required "name" .text name fun name table => { table with name },
    .defaulted "columns" CatalogueRow.codec.list columns
      (fun columns table => { table with columns }) rfl
  ]

theorem covers_parts : FieldCodec.Covers parts where
  distinct := by decide
  copy_copy := by simp [parts, FieldCodec.required, FieldCodec.defaulted]
  copy_comm := by simp [parts, FieldCodec.required, FieldCodec.defaulted]
  copy_all _ _ := rfl

/-- Documents of tables. -/
def codec : Codec CapturedTable :=
  .record "SnapshotTable" parts covers_parts

end CapturedTable

namespace CapturedEnum

/-- The fields of an enum with their documents. -/
def parts : List (FieldCodec CapturedEnum { name := "" }) :=
  [
    .defaulted "schema" .text schema (fun schema enumeration =>
      { enumeration with schema }) rfl,
    .required "name" .text name fun name enumeration => { enumeration with name },
    .defaulted "values" .texts values (fun values enumeration =>
      { enumeration with values }) rfl,
    .defaulted "labels" (.nullable .text nofun) literal
      (fun literal enumeration => { enumeration with literal }) rfl
  ]

theorem covers_parts : FieldCodec.Covers parts where
  distinct := by decide
  copy_copy := by simp [parts, FieldCodec.required, FieldCodec.defaulted]
  copy_comm := by simp [parts, FieldCodec.required, FieldCodec.defaulted]
  copy_all _ _ := rfl

/-- Documents of enums. -/
def codec : Codec CapturedEnum :=
  .record "SnapshotEnum" parts covers_parts

end CapturedEnum

namespace Snapshot

/-- The fields of a snapshot with their documents. -/
def parts : List (FieldCodec Snapshot {}) :=
  [
    .defaulted "tables" CapturedTable.codec.list tables
      (fun tables snapshot => { snapshot with tables }) rfl,
    .defaulted "enums" CapturedEnum.codec.list enums
      (fun enums snapshot => { snapshot with enums }) rfl
  ]

theorem covers_parts : FieldCodec.Covers parts where
  distinct := by decide
  copy_copy := by simp [parts, FieldCodec.defaulted]
  copy_comm := by simp [parts, FieldCodec.defaulted]
  copy_all _ _ := rfl

/-- Documents of snapshots. -/
def codec : Codec Snapshot :=
  .record "SchemaSnapshot" parts covers_parts

end Snapshot

namespace Settings

/-- The fields of settings with their documents. -/
def parts : List (FieldCodec Settings {}) :=
  [
    .defaulted "casing" Casing.codec casing (fun casing settings =>
      { settings with casing }) rfl,
    .defaulted "table_allowlist" (NameSet.codec.nullable nofun) tableAllowlist
      (fun tableAllowlist settings => { settings with tableAllowlist }) rfl,
    .defaulted "table_denylist" (NameSet.codec.nullable nofun) tableDenylist
      (fun tableDenylist settings => { settings with tableDenylist }) rfl,
    .defaulted "schema_allowlist" (NameSet.codec.nullable nofun) schemaAllowlist
      (fun schemaAllowlist settings => { settings with schemaAllowlist }) rfl,
    .defaulted "required_string_min_length" (.nullable .uint32 nofun) textMinLength
      (fun textMinLength settings => { settings with textMinLength }) rfl,
    .defaulted "excluded_table_prefixes" .texts excludedPrefixes
      (fun excludedPrefixes settings => { settings with excludedPrefixes }) rfl
  ]

theorem covers_parts : FieldCodec.Covers parts where
  distinct := by decide
  copy_copy := by simp [parts, FieldCodec.defaulted]
  copy_comm := by simp [parts, FieldCodec.defaulted]
  copy_all _ _ := rfl

/-- Documents of settings. -/
def codec : Codec Settings :=
  .record "GenerationConfig" parts covers_parts

end Settings

namespace Column

/-- The fields of a column with their documents. -/
def parts : List (FieldCodec Column { table := "", name := "", typeText := "" }) :=
  [
    .required "table_name" .text table fun table column => { column with table },
    .required "column_name" .text name fun name column => { column with name },
    .required "raw_type" .text typeText fun typeText column => { column with typeText },
    .defaulted "is_nullable" .boolean isNullable (fun isNullable column =>
      { column with isNullable }) rfl,
    .defaulted "is_unsigned" .boolean isUnsigned (fun isUnsigned column =>
      { column with isUnsigned }) rfl,
    .defaulted "enum_ref" (.nullable .text nofun) enumName
      (fun enumName column => { column with enumName }) rfl
  ]

theorem covers_parts : FieldCodec.Covers parts where
  distinct := by decide
  copy_copy := by simp [parts, FieldCodec.required, FieldCodec.defaulted]
  copy_comm := by simp [parts, FieldCodec.required, FieldCodec.defaulted]
  copy_all _ _ := rfl

/-- Documents of columns. -/
def codec : Codec Column :=
  .record "ColumnDescriptor" parts covers_parts

end Column

namespace EnumRow

/-- The fields of an enum row with their documents. -/
def parts : List (FieldCodec EnumRow ⟨"", ""⟩) :=
  [
    .required "enum_name" .text enumName fun enumName row => { row with enumName },
    .required "value" .text label fun label row => { row with label }
  ]

theorem covers_parts : FieldCodec.Covers parts where
  distinct := by decide
  copy_copy := by simp [parts, FieldCodec.required]
  copy_comm := by simp [parts, FieldCodec.required]
  copy_all _ _ := rfl

/-- Documents of enum rows. -/
def codec : Codec EnumRow :=
  .record "RawEnumRow" parts covers_parts

end EnumRow

/-! ## Round trips -/

/-- Every arrangement of a stored snapshot, of settings, of a column or of an enum row
reads as the stored value, and the value of any document of them is stored as a document
that reads as this value. -/
theorem documents_roundTrip :
    RoundTrips Snapshot.reader Snapshot.toJson (ArrangesRecord Snapshot.forms) ∧
      RoundTrips Settings.reader Settings.toJson (ArrangesRecord Settings.forms) ∧
      RoundTrips Column.reader Column.toJson (ArrangesRecord Column.forms) ∧
      RoundTrips EnumRow.reader EnumRow.toJson (ArrangesRecord EnumRow.forms) :=
  ⟨Snapshot.codec.roundTrips, Settings.codec.roundTrips, Column.codec.roundTrips,
    EnumRow.codec.roundTrips⟩

/-- Settings with two members in another order and a snapshot of one column, all without
their defaults, read as they were stored. -/
theorem camel_settings_and_users_snapshot_read :
    parse Settings.reader
        (Value.record [
          ("excluded_table_prefixes", .list []),
          ("casing", .text "camel")
        ]).print =
      .ok { casing := .camel, excludedPrefixes := [] } ∧
    parse Snapshot.reader
        (Value.record [
          ("tables", .list [
            .record [
              ("columns", .list [
                .record [("data_type", .text "text"), ("name", .text "last \"name\"\n")]
              ]),
              ("name", .text "users")
            ]
          ])
        ]).print =
      .ok {
        tables := [
          { name := "users", columns := [{ name := "last \"name\"\n", dataType := "text" }] }
        ]
      } := by
  obtain ⟨snapshots, settings, -, -⟩ := documents_roundTrip
  have arrangesSettings :
      ArrangesRecord Settings.forms
        (Settings.toJson { casing := .camel, excludedPrefixes := [] })
        (.record [("excluded_table_prefixes", .list []), ("casing", .text "camel")]) := by
    refine ⟨by decide, ?_, ?_⟩ <;>
      simp [Settings.forms, Casing.toJson, Casing.name, Value.ofList,
        Value.ofOption]
  have arrangesColumn :
      ArrangesRecord CatalogueRow.forms
        (CatalogueRow.toJson { name := "last \"name\"\n", dataType := "text" })
        (.record [("data_type", .text "text"), ("name", .text "last \"name\"\n")]) := by
    refine ⟨by decide, ?_, ?_⟩ <;>
      simp [CatalogueRow.forms, Value.ofOption]
  have arrangesTable :
      ArrangesRecord CapturedTable.forms
        (CapturedTable.toJson
          {
            name := "users"
            columns := [{ name := "last \"name\"\n", dataType := "text" }]
          })
        (.record [
          ("columns", .list [
            .record [("data_type", .text "text"), ("name", .text "last \"name\"\n")]
          ]),
          ("name", .text "users")
        ]) := by
    refine ⟨by decide, ?_, ?_⟩ <;>
      simp [CapturedTable.forms, Settings.defaultSchema, Value.ofList, ArrangesList,
        arrangesColumn]
  refine ⟨settings.parse_arranged _ _ arrangesSettings,
    snapshots.parse_arranged _ _ ⟨by decide, ?_, ?_⟩⟩ <;>
    simp [Snapshot.forms, Value.ofList, ArrangesList, arrangesTable]

end TableTypes
