import TableTypes.Proofs.Json.Reading

/-!
# Reading printed records

A printed record whose members have different names, all of them names of fields, reads
member by member: each member updates the record under construction by what its field
reads. The order of the members is the order of the updates, and a field without a
member must be one that is not required.
-/

namespace TableTypes
namespace Json

namespace Value

/-- The characters of a member. -/
def oneMemberChars (member : String × Value) : List Char :=
  textLiteral member.1 ++ ':' :: member.2.chars

/-- The members of a record are printed with commas between them. -/
theorem memberChars_eq_separated (members : List (String × Value)) :
    memberChars members = separated oneMemberChars true members := by
  induction members with
  | nil => rfl
  | cons member members inductionHypothesis =>
      cases members with
      | nil => simp [memberChars, separated, oneMemberChars]
      | cons next members =>
          rw [memberChars, inductionHypothesis]
          · rfl
          · simp

/-- A member starts with the quote that opens its name. -/
theorem oneMemberChars_append (member : String × Value) (rest : List Char) :
    oneMemberChars member ++ rest =
      '"' :: (member.1.toList.flatMap escapeText
        ++ '"' :: ':' :: (member.2.chars ++ rest)) := by
  simp [oneMemberChars, textLiteral]

end Value

/-- Among fields with different names a field is found by its name. -/
theorem RecordField.find?_name_eq
    {fields : List (RecordField ρ)}
    (distinct : (fields.map RecordField.name).Nodup)
    {field : RecordField ρ}
    (member : field ∈ fields) :
    fields.find? (fun other => other.name = field.name) = some field := by
  induction fields with
  | nil => contradiction
  | cons first fields inductionHypothesis =>
      rw [List.map_cons, List.nodup_cons] at distinct
      rcases List.mem_cons.mp member with rfl | member
      · simp
      · have different : first.name ≠ field.name := fun same =>
          distinct.1 (same ▸ List.mem_map_of_mem member)
        rw [List.find?_cons_of_neg (by simpa using different)]
        exact inductionHypothesis distinct.2 member

namespace Reader

/-- At the closing brace no member follows. -/
theorem hasMember_brace (isFirst : Bool) (rest : List Char) :
    hasMember isFirst ('\x7d' :: rest) = .ok (false, '\x7d' :: rest) := by
  rw [hasMember, bind_eq (demand_cons rfl rest)]
  rfl

/-- At a further member of a record the reading goes on with its name, whose opening
quote is consumed. -/
theorem hasMember_separated
    (isFirst : Bool)
    (member : String × Value)
    (members : List (String × Value))
    (rest : List Char) :
    hasMember isFirst (separated Value.oneMemberChars isFirst (member :: members) ++ rest) =
      .ok (true, member.1.toList.flatMap escapeText ++ '"' :: ':' ::
        (member.2.chars ++ (separated Value.oneMemberChars false members ++ rest))) := by
  cases isFirst with
  | true =>
      rw [separated, List.append_assoc, Value.oneMemberChars_append, hasMember,
        bind_eq (demand_cons rfl _)]
      rfl
  | false =>
      rw [separated, List.append_assoc, List.cons_append, Value.oneMemberChars_append,
        hasMember, bind_eq (demand_cons rfl _)]
      rfl

variable {fields : List (RecordField ρ)}

/-- One member is read into the record and its name is noted. -/
theorem members_step
    (distinctFields : (fields.map RecordField.name).Nodup)
    {field : RecordField ρ}
    (isField : field ∈ fields)
    {seen : List String}
    (unseen : field.name ∉ seen)
    {document : Value}
    {update : ρ -> ρ}
    (reads : Reads field.read document.chars update)
    (fuel : Nat)
    (isFirst : Bool)
    (others : List (String × Value))
    (value : ρ)
    (rest : List Char) :
    members fields seen value (fuel + 1) isFirst
        (separated Value.oneMemberChars isFirst ((field.name, document) :: others)
          ++ '\x7d' :: rest) =
      members fields (field.name :: seen) (update value) fuel false
        (separated Value.oneMemberChars false others ++ '\x7d' :: rest) := by
  rw [members, bind_eq (hasMember_separated isFirst _ others _), if_pos rfl,
    bind_eq (textBody_escaped field.name _)]
  simp only [RecordField.find?_name_eq distinctFields isField]
  rw [if_neg unseen, bind_eq (expect_cons rfl _),
    bind_eq (reads _ ((Closes.brace rest).separated _ _))]

/-- At the closing brace the record is complete when its required fields were read. -/
theorem members_brace
    {seen : List String}
    (complete : ∀ field ∈ fields, field.isRequired = true -> field.name ∈ seen)
    (fuel : Nat)
    (isFirst : Bool)
    (value : ρ)
    (rest : List Char) :
    members fields seen value (fuel + 1) isFirst ('\x7d' :: rest) = .ok (value, rest) := by
  have noneMissing :
      fields.find? (fun field => field.isRequired && field.name ∉ seen) = none := by
    rw [List.find?_eq_none]
    intro field isField missing
    rw [Bool.and_eq_true, decide_eq_true_eq] at missing
    exact missing.2 (complete field isField missing.1)
  rw [members, bind_eq (hasMember_brace _ _)]
  simp only [Bool.false_eq_true, if_false, noneMissing]
  rfl

/-- A member of a printed record is read by a field of its name. -/
def GivenBy
    (fields : List (RecordField ρ))
    (part : RecordField ρ × (ρ -> ρ))
    (member : String × Value) : Prop :=
  part.1 ∈ fields ∧ part.1.name = member.1 ∧ Reads part.1.read member.2.chars part.2

/-- The members of a record are read up to its end. -/
theorem members_separated
    (distinctFields : (fields.map RecordField.name).Nodup)
    {parts : List (RecordField ρ × (ρ -> ρ))}
    {printed : List (String × Value)}
    (given : List.Forall₂ (GivenBy fields) parts printed)
    (distinct : (printed.map Prod.fst).Nodup)
    {seen : List String}
    (unseen : ∀ member ∈ printed, member.1 ∉ seen)
    (complete : ∀ field ∈ fields, field.isRequired = true ->
      field.name ∈ seen ∨ field.name ∈ printed.map Prod.fst)
    {fuel : Nat}
    (enough : printed.length < fuel)
    (isFirst : Bool)
    (value : ρ)
    (rest : List Char) :
    members fields seen value fuel isFirst
        (separated Value.oneMemberChars isFirst printed ++ '\x7d' :: rest) =
      .ok (parts.foldl (fun value part => part.2 value) value, rest) := by
  induction given generalizing seen fuel isFirst value with
  | nil =>
      obtain ⟨fuel, rfl⟩ := Nat.exists_eq_add_one_of_ne_zero (Nat.ne_zero_of_lt enough)
      refine members_brace ?_ fuel isFirst value rest
      intro field isField isRequired
      exact (complete field isField isRequired).resolve_right List.not_mem_nil
  | @cons part member parts printed first others inductionHypothesis =>
      obtain ⟨field, update⟩ := part
      obtain ⟨name, document⟩ := member
      obtain ⟨isField, rfl, reads⟩ := first
      obtain ⟨fuel, rfl⟩ := Nat.exists_eq_add_one_of_ne_zero (Nat.ne_zero_of_lt enough)
      obtain ⟨newHere, distinctOthers⟩ := List.nodup_cons.mp distinct
      obtain ⟨unseenHere, unseenOthers⟩ := List.forall_mem_cons.mp unseen
      rw [members_step distinctFields isField unseenHere reads]
      refine inductionHypothesis distinctOthers ?_ ?_ (Nat.lt_of_succ_lt_succ enough) false _
      · intro other isOther isSeen
        have otherName := List.mem_map_of_mem (f := Prod.fst) isOther
        rcases List.mem_cons.mp isSeen with same | isSeen
        · exact newHere (same ▸ otherName)
        · exact unseenOthers other isOther isSeen
      · intro other isField isRequired
        rcases complete other isField isRequired with isSeen | isGiven
        · exact .inl (List.mem_cons_of_mem _ isSeen)
        · rcases List.mem_cons.mp isGiven with same | isGiven
          · exact .inl (same ▸ List.mem_cons_self)
          · exact .inr isGiven

end Reader

/-- A record reads as the starting value with the updates of its members. -/
theorem Reads.record
    {fields : List (RecordField ρ)}
    (distinctFields : (fields.map RecordField.name).Nodup)
    {parts : List (RecordField ρ × (ρ -> ρ))}
    {printed : List (String × Value)}
    (given : List.Forall₂ (Reader.GivenBy fields) parts printed)
    (distinct : (printed.map Prod.fst).Nodup)
    (complete : ∀ field ∈ fields, field.isRequired = true ->
      field.name ∈ printed.map Prod.fst)
    (name : String)
    (start : ρ) :
    Reads (Reader.record name fields start) (Value.record printed).chars
      (parts.foldl (fun value part => part.2 value) start) := by
  intro rest _
  have enough := length_le_length_separated Value.oneMemberChars true printed
  change Reader.record name fields start
    ('\x7b' :: Value.memberChars printed ++ ['\x7d'] ++ rest) = _
  rw [List.append_assoc, List.cons_append, List.singleton_append, Reader.record,
    Reader.bind_eq (Reader.demand_cons rfl _)]
  simp only
  rw [Reader.bind_eq (rfl : Reader.advance _ = .ok ((), _)),
    Reader.bind_eq (rfl : Reader.fuel _ = .ok (_, _)), List.tail_cons,
    Value.memberChars_eq_separated]
  refine Reader.members_separated distinctFields given distinct
    (fun _ _ => List.not_mem_nil) (fun field isField isRequired =>
      .inr (complete field isField isRequired)) ?_ true start rest
  simp only [List.length_append, List.length_cons]
  omega

end Json
end TableTypes
