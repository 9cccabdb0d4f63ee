import TableTypes.Proofs.Json.Record

/-!
# Arrangements of documents

A document may give the members of a record in any order and may leave out a member that
has its default value. Such an arrangement is a relation between printed values. A codec
is a reader and a printer of one kind of values together with the arrangements that the
reader undoes.
-/

namespace TableTypes
namespace Json

/-! ## Arranged values -/

/-- A member of the records of one kind. -/
structure MemberForm where
  name : String
  /-- The value with which the member may be left out. -/
  fallback : Option Value
  /-- What may be given in place of a printed value. -/
  Arranges : Value -> Value -> Prop

/-- A list is arranged when each of its elements is. -/
def ArrangesList (Arranges : Value -> Value -> Prop) : Value -> Value -> Prop
  | .list originals, .list items => List.Forall₂ Arranges originals items
  | _, _ => False

/-- The members of a record in another order, each with an arranged value, without some of
those whose value is the default. -/
structure ArrangesMembers
    (forms : List MemberForm)
    (originals members : List (String × Value)) : Prop where
  distinct : (members.map Prod.fst).Nodup
  arranged : ∀ member ∈ members, ∃ original ∈ originals, ∃ form ∈ forms,
    original.1 = member.1 ∧ form.name = member.1 ∧ form.Arranges original.2 member.2
  complete : ∀ original ∈ originals, original.1 ∈ members.map Prod.fst ∨
    ∃ form ∈ forms, form.name = original.1 ∧ form.fallback = some original.2

/-- A record is arranged when its members are. -/
def ArrangesRecord (forms : List MemberForm) : Value -> Value -> Prop
  | .record originals, .record members => ArrangesMembers forms originals members
  | _, _ => False

/-- What is printed for a value is an arrangement of itself, every arrangement of it reads
as the value, and what is printed for the value of any document reads as this value. -/
structure RoundTrips
    (reader : Reader α)
    (toJson : α -> Value)
    (Arranges : Value -> Value -> Prop) : Prop where
  arranges_toJson : ∀ value, Arranges (toJson value) (toJson value)
  parse_arranged : ∀ value document, Arranges (toJson value) document ->
    parse reader document.print = .ok value
  parse_again : ∀ text value, parse reader text = .ok value ->
    parse reader (toJson value).print = .ok value

/-! ## Codecs -/

/-- A reader and a printer with the arrangements that the reader undoes. -/
structure Codec (α : Type) where
  reader : Reader α
  toJson : α -> Value
  Arranges : Value -> Value -> Prop
  arranges_self : ∀ value, Arranges (toJson value) (toJson value)
  reads : ∀ value document, Arranges (toJson value) document ->
    Reads reader document.chars value

namespace Codec

/-- What is printed for a value reads as the value. -/
theorem reads_self (codec : Codec α) (value : α) :
    Reads codec.reader (codec.toJson value).chars value :=
  codec.reads value _ (codec.arranges_self value)

theorem parse_print
    (codec : Codec α)
    {value : α}
    {document : Value}
    (arranges : codec.Arranges (codec.toJson value) document) :
    parse codec.reader document.print = .ok value := by
  have step := codec.reads value document arranges [] .nothing
  rw [List.append_nil] at step
  rw [parse, Value.print, String.toList_ofList, step]
  rfl

theorem roundTrips (codec : Codec α) :
    RoundTrips codec.reader codec.toJson codec.Arranges where
  arranges_toJson := codec.arranges_self
  parse_arranged _ _ arranges := codec.parse_print arranges
  parse_again _ value _ := codec.parse_print (codec.arranges_self value)

/-- Different values are printed differently. -/
theorem toJson_injective (codec : Codec α) : Function.Injective codec.toJson := by
  intro left right same
  have readLeft := codec.parse_print (codec.arranges_self left)
  rw [same, codec.parse_print (codec.arranges_self right)] at readLeft
  exact (Except.ok.inj readLeft).symm

/-- Values that are given as they are printed. -/
def exact
    (reader : Reader α)
    (toJson : α -> Value)
    (reads : ∀ value, Reads reader (toJson value).chars value) : Codec α where
  reader := reader
  toJson := toJson
  Arranges := Eq
  arranges_self _ := rfl
  reads value _ same := same ▸ reads value

/-- Values that may be null, the others given as they are printed. -/
def nullable
    (codec : Codec α)
    (notNull : ∀ value, codec.toJson value ≠ .null) : Codec (Option α) :=
  exact (Reader.nullable codec.reader) (Value.ofOption codec.toJson) fun
    | none => Reads.nullable_none codec.reader
    | some value => Reads.nullable_some (codec.reads_self value) (notNull value)

/-- Lists whose elements may be arranged. -/
def list (codec : Codec α) : Codec (List α) where
  reader := Reader.list codec.reader
  toJson := Value.ofList codec.toJson
  Arranges := ArrangesList codec.Arranges
  arranges_self values := by
    refine List.forall₂_same.mpr ?_
    intro printed isPrinted
    obtain ⟨value, -, rfl⟩ := List.mem_map.mp isPrinted
    exact codec.arranges_self value
  reads values document arranges := by
    cases document with
    | list items =>
        refine Reads.list ?_
        exact (List.forall₂_map_left_iff.mp arranges).imp codec.reads
    | _ => exact arranges.elim

end Codec

end Json
end TableTypes
