import TableTypes.Json.Record
import TableTypes.Json.Value
import TableTypes.Snapshot

/-!
# Documents of snapshots

The records in which a snapshot is stored.
-/

namespace TableTypes

open Json

namespace CatalogueRow

/-- The fields of the document of a catalogue row. -/
def fields : List (RecordField CatalogueRow) :=
  [
    .required "name" Reader.text fun name column => { column with name },
    .required "data_type" Reader.text fun dataType column => { column with dataType },
    .defaulted "is_nullable" Reader.text fun isNullable column =>
      { column with isNullable },
    .defaulted "udt_name" (Reader.nullable Reader.text) fun underlyingType column =>
      { column with underlyingType }
  ]

/-- Read the document of a catalogue row. -/
def reader : Reader CatalogueRow :=
  Reader.record "SnapshotColumn" fields { name := "", dataType := "" }

/-- The document of a catalogue row. -/
def toJson (column : CatalogueRow) : Value :=
  .record [
    ("name", .text column.name),
    ("data_type", .text column.dataType),
    ("is_nullable", .text column.isNullable),
    ("udt_name", .ofOption .text column.underlyingType)
  ]

end CatalogueRow

namespace CapturedTable

/-- The fields of the document of a table. -/
def fields : List (RecordField CapturedTable) :=
  [
    .defaulted "schema" Reader.text fun schema table => { table with schema },
    .required "name" Reader.text fun name table => { table with name },
    .defaulted "columns" (Reader.list CatalogueRow.reader) fun columns table =>
      { table with columns }
  ]

/-- Read the document of a table. -/
def reader : Reader CapturedTable :=
  Reader.record "SnapshotTable" fields { name := "" }

/-- The document of a table. -/
def toJson (table : CapturedTable) : Value :=
  .record [
    ("schema", .text table.schema),
    ("name", .text table.name),
    ("columns", .ofList CatalogueRow.toJson table.columns)
  ]

end CapturedTable

namespace CapturedEnum

/-- The fields of the document of an enum. -/
def fields : List (RecordField CapturedEnum) :=
  [
    .defaulted "schema" Reader.text fun schema enumeration => { enumeration with schema },
    .required "name" Reader.text fun name enumeration => { enumeration with name },
    .defaulted "values" (Reader.list Reader.text) fun values enumeration =>
      { enumeration with values },
    .defaulted "labels" (Reader.nullable Reader.text) fun literal enumeration =>
      { enumeration with literal }
  ]

/-- Read the document of an enum. -/
def reader : Reader CapturedEnum :=
  Reader.record "SnapshotEnum" fields { name := "" }

/-- The document of an enum. -/
def toJson (enumeration : CapturedEnum) : Value :=
  .record [
    ("schema", .text enumeration.schema),
    ("name", .text enumeration.name),
    ("values", .ofList .text enumeration.values),
    ("labels", .ofOption .text enumeration.literal)
  ]

end CapturedEnum

namespace Snapshot

/-- The fields of the document of a snapshot. -/
def fields : List (RecordField Snapshot) :=
  [
    .defaulted "tables" (Reader.list CapturedTable.reader) fun tables snapshot =>
      { snapshot with tables },
    .defaulted "enums" (Reader.list CapturedEnum.reader) fun enums snapshot =>
      { snapshot with enums }
  ]

/-- Read the document of a snapshot. -/
def reader : Reader Snapshot :=
  Reader.record "SchemaSnapshot" fields {}

/-- The document of a snapshot. -/
def toJson (snapshot : Snapshot) : Value :=
  .record [
    ("tables", .ofList CapturedTable.toJson snapshot.tables),
    ("enums", .ofList CapturedEnum.toJson snapshot.enums)
  ]

end Snapshot
end TableTypes
