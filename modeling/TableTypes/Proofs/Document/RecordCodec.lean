import Mathlib.Data.List.Nodup
import TableTypes.Proofs.Document.Arrangement

/-!
# Codecs of records

The codec of a record is put together from those of its fields. When the fields cover the
record, the members of an arrangement may be copied into the starting record in any
order: a member that is left out finds its value there, and no other record agrees with
the printed one in every field.
-/

namespace TableTypes
namespace Json

/-- A field of the records that are read from one starting value, with its printed form.
-/
structure FieldCodec (ρ : Type) (start : ρ) where
  field : RecordField ρ
  form : MemberForm
  toJson : ρ -> Value
  /-- Put the field of the first record into the second. -/
  copy : ρ -> ρ -> ρ
  name_eq : form.name = field.name
  fallback_eq_none : field.isRequired = true -> form.fallback = none
  arranges_self : ∀ source, form.Arranges (toJson source) (toJson source)
  reads : ∀ source document, form.Arranges (toJson source) document ->
    Reads field.read document.chars (copy source)
  copy_start : ∀ source, form.fallback = some (toJson source) -> copy source start = start

namespace FieldCodec

variable {ρ : Type} {start : ρ}

/-- What a codec reads is put into the record. -/
theorem reads_put
    (codec : Codec α)
    (put : α -> ρ -> ρ)
    {value : α}
    {document : Value}
    (arranges : codec.Arranges (codec.toJson value) document) :
    Reads (do return put (← codec.reader)) document.chars (put value) := by
  intro rest closes
  rw [Reader.bind_eq (codec.reads value document arranges rest closes)]
  rfl

/-- A field that must be given. -/
def required
    (name : String)
    (codec : Codec α)
    (get : ρ -> α)
    (put : α -> ρ -> ρ) : FieldCodec ρ start where
  field := .required name codec.reader put
  form := ⟨name, none, codec.Arranges⟩
  toJson source := codec.toJson (get source)
  copy source := put (get source)
  name_eq := rfl
  fallback_eq_none _ := rfl
  arranges_self source := codec.arranges_self (get source)
  reads _ _ := reads_put codec put
  copy_start _ := nofun

/-- A field that may be left out when it has the value of the starting record. -/
def defaulted
    (name : String)
    (codec : Codec α)
    (get : ρ -> α)
    (put : α -> ρ -> ρ)
    (put_get : put (get start) start = start) : FieldCodec ρ start where
  field := .defaulted name codec.reader put
  form := ⟨name, some (codec.toJson (get start)), codec.Arranges⟩
  toJson source := codec.toJson (get source)
  copy source := put (get source)
  name_eq := rfl
  fallback_eq_none := nofun
  arranges_self source := codec.arranges_self (get source)
  reads _ _ := reads_put codec put
  copy_start source isDefault := by
    have same : get start = get source :=
      codec.toJson_injective (Option.some.inj isDefault)
    rw [← same, put_get]

/-- The printed member of a record. -/
def member (source : ρ) (part : FieldCodec ρ start) : String × Value :=
  (part.field.name, part.toJson source)

/-- Copying fields one after another gives a whole record, in whichever order it is done
and however often. -/
structure Covers (parts : List (FieldCodec ρ start)) : Prop where
  distinct : (parts.map fun part => part.field.name).Nodup
  copy_copy : ∀ part ∈ parts, ∀ source value,
    part.copy source (part.copy source value) = part.copy source value
  copy_comm : ∀ part ∈ parts, ∀ other ∈ parts, ∀ source value,
    part.copy source (other.copy source value) = other.copy source (part.copy source value)
  copy_all : ∀ source value,
    parts.foldl (fun value part => part.copy source value) value = source

namespace Covers

variable {parts : List (FieldCodec ρ start)}

/-- Fields of one name are one field. -/
theorem eq_of_name_eq
    (covers : Covers parts)
    {part other : FieldCodec ρ start}
    (isPart : part ∈ parts)
    (isOther : other ∈ parts)
    (same : part.field.name = other.field.name) :
    part = other :=
  List.inj_on_of_nodup_map covers.distinct isPart isOther same

/-- A record into which all fields of another can be copied without a change is that
record. -/
theorem eq_of_copies
    (covers : Covers parts)
    {source value : ρ}
    (copies : ∀ part ∈ parts, part.copy source value = value) :
    value = source := by
  rw [← covers.copy_all source value]
  clear covers
  induction parts with
  | nil => rfl
  | cons part parts inductionHypothesis =>
      obtain ⟨first, others⟩ := List.forall_mem_cons.mp copies
      rw [List.foldl_cons, first]
      exact inductionHypothesis others

/-- A field that agrees at the start, or is copied on the way, agrees at the end. -/
theorem copy_foldl
    (covers : Covers parts)
    {chosen : List (FieldCodec ρ start)}
    (areParts : ∀ part ∈ chosen, part ∈ parts)
    {part : FieldCodec ρ start}
    (isPart : part ∈ parts)
    {source value : ρ}
    (settled : part.copy source value = value ∨ part ∈ chosen) :
    part.copy source (chosen.foldl (fun value part => part.copy source value) value) =
      chosen.foldl (fun value part => part.copy source value) value := by
  induction chosen generalizing value with
  | nil => exact settled.resolve_right List.not_mem_nil
  | cons first chosen inductionHypothesis =>
      obtain ⟨isFirst, areOthers⟩ := List.forall_mem_cons.mp areParts
      refine inductionHypothesis areOthers ?_
      rcases settled with agrees | isChosen
      · left
        rw [covers.copy_comm part isPart first isFirst, agrees]
      · rcases List.mem_cons.mp isChosen with rfl | isOther
        · exact .inl (covers.copy_copy part isPart source value)
        · exact .inr isOther

/-- Each member of an arrangement comes from the field of its name. -/
theorem exists_part_of_arranged
    (covers : Covers parts)
    {source : ρ}
    {members : List (String × Value)}
    (arranges : ArrangesMembers (parts.map form) (parts.map (member source)) members)
    {given : String × Value}
    (isGiven : given ∈ members) :
    ∃ part ∈ parts, part.field.name = given.1 ∧
      part.form.Arranges (part.toJson source) given.2 := by
  obtain ⟨original, isOriginal, form, isForm, originalName, formName, arrangesValue⟩ :=
    arranges.arranged given isGiven
  obtain ⟨part, isPart, rfl⟩ := List.mem_map.mp isOriginal
  obtain ⟨other, isOther, rfl⟩ := List.mem_map.mp isForm
  rw [other.name_eq, ← originalName] at formName
  obtain rfl := covers.eq_of_name_eq isOther isPart formName
  exact ⟨other, isPart, originalName, arrangesValue⟩

/-- A field without a member in an arrangement has its default value and is not
required. -/
theorem fallback_of_not_given
    (covers : Covers parts)
    {source : ρ}
    {members : List (String × Value)}
    (arranges : ArrangesMembers (parts.map form) (parts.map (member source)) members)
    {part : FieldCodec ρ start}
    (isPart : part ∈ parts)
    (notGiven : part.field.name ∉ members.map Prod.fst) :
    part.form.fallback = some (part.toJson source) := by
  obtain ⟨form, isForm, sameName, isFallback⟩ :=
    (arranges.complete _ (List.mem_map_of_mem isPart)).resolve_left notGiven
  obtain ⟨other, isOther, rfl⟩ := List.mem_map.mp isForm
  rw [other.name_eq] at sameName
  obtain rfl := covers.eq_of_name_eq isOther isPart sameName
  exact isFallback

/-- Members that each belong to a field belong to a list of fields. -/
theorem exists_chosen
    {related : FieldCodec ρ start -> String × Value -> Prop}
    {members : List (String × Value)}
    (each : ∀ given ∈ members, ∃ part ∈ parts, related part given) :
    ∃ chosen, (∀ part ∈ chosen, part ∈ parts) ∧ List.Forall₂ related chosen members := by
  induction members with
  | nil => exact ⟨[], nofun, .nil⟩
  | cons given members inductionHypothesis =>
      obtain ⟨⟨part, isPart, isRelated⟩, others⟩ := List.forall_mem_cons.mp each
      obtain ⟨chosen, areParts, areRelated⟩ := inductionHypothesis others
      exact ⟨part :: chosen, List.forall_mem_cons.mpr ⟨isPart, areParts⟩,
        .cons isRelated areRelated⟩

/-- Every arrangement of a printed record reads as the record. -/
theorem reads_arranged
    (covers : Covers parts)
    (name : String)
    {source : ρ}
    {members : List (String × Value)}
    (arranges : ArrangesMembers (parts.map form) (parts.map (member source)) members) :
    Reads (Reader.record name (parts.map field) start) (Value.record members).chars
      source := by
  obtain ⟨chosen, areParts, given⟩ := exists_chosen fun given isGiven =>
    covers.exists_part_of_arranged arranges isGiven
  have names : chosen.map (fun part => part.field.name) = members.map Prod.fst := by
    rw [← List.forall₂_eq_eq_eq, List.forall₂_map_left_iff, List.forall₂_map_right_iff]
    exact given.imp fun _ _ related => related.1
  have isChosen : ∀ part ∈ parts,
      part.field.name ∈ members.map Prod.fst -> part ∈ chosen := by
    intro part isPart isGiven
    rw [← names] at isGiven
    obtain ⟨other, isOther, same⟩ := List.mem_map.mp isGiven
    exact covers.eq_of_name_eq (areParts other isOther) isPart same ▸ isOther
  have whole :
      chosen.foldl (fun value part => part.copy source value) start = source := by
    refine covers.eq_of_copies fun part isPart => covers.copy_foldl areParts isPart ?_
    by_cases isGiven : part.field.name ∈ members.map Prod.fst
    · exact .inr (isChosen part isPart isGiven)
    · exact .inl (part.copy_start source (covers.fallback_of_not_given arranges isPart isGiven))
  have distinctFields : ((parts.map field).map RecordField.name).Nodup := by
    rw [List.map_map]
    exact covers.distinct
  have givenBy : List.Forall₂ (Reader.GivenBy (parts.map field))
      (chosen.map fun part => (part.field, part.copy source)) members := by
    rw [List.forall₂_map_left_iff]
    refine ((List.forall₂_and_left _ _).mpr ⟨areParts, given⟩).imp ?_
    rintro part given ⟨isPart, sameName, arrangesValue⟩
    exact ⟨List.mem_map_of_mem isPart, sameName, part.reads source _ arrangesValue⟩
  have complete : ∀ required ∈ parts.map field, required.isRequired = true ->
      required.name ∈ members.map Prod.fst := by
    intro required isField isRequired
    obtain ⟨part, isPart, rfl⟩ := List.mem_map.mp isField
    by_contra notGiven
    have isFallback := covers.fallback_of_not_given arranges isPart notGiven
    rw [part.fallback_eq_none isRequired] at isFallback
    contradiction
  have reads := Reads.record distinctFields givenBy arranges.distinct complete name start
  rw [List.foldl_map, whole] at reads
  exact reads

end Covers

end FieldCodec

/-- The codec of a record with fields that give a whole record. -/
def Codec.record
    {start : ρ}
    (name : String)
    (parts : List (FieldCodec ρ start))
    (covers : FieldCodec.Covers parts) : Codec ρ where
  reader := Reader.record name (parts.map FieldCodec.field) start
  toJson source := .record (parts.map (FieldCodec.member source))
  Arranges := ArrangesRecord (parts.map FieldCodec.form)
  arranges_self source := by
    refine ⟨?_, ?_, ?_⟩
    · rw [List.map_map]
      exact covers.distinct
    · intro given isGiven
      obtain ⟨part, isPart, rfl⟩ := List.mem_map.mp isGiven
      exact ⟨_, isGiven, part.form, List.mem_map_of_mem isPart, rfl, part.name_eq,
        part.arranges_self source⟩
    · intro original isOriginal
      exact .inl (List.mem_map_of_mem isOriginal)
  reads source document arranges := by
    cases document with
    | record members => exact covers.reads_arranged name arranges
    | _ => exact arranges.elim

end Json
end TableTypes
