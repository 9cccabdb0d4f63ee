import Mathlib.Data.List.Forall2
import TableTypes.Json.Record
import TableTypes.Json.Value
import TableTypes.Proofs.Json.Literal

/-!
# Readers of printed values

A reader reads characters as a value when it takes exactly these characters off every
text that goes on as a document does. The steps of a reader are followed one by one, and
the readers of simple values and of lists read what is printed for them.
-/

namespace TableTypes
namespace Json

/-- The reader takes the characters off the front of a text and yields the result. -/
def Reads (reader : Reader α) (chars : List Char) (result : α) : Prop :=
  ∀ rest, Closes rest -> reader (chars ++ rest) = .ok (result, rest)

/-! ## Steps of readers -/

namespace Reader

/-- A reader goes on where its first step has stopped. -/
theorem bind_eq
    {first : Reader α}
    {next : α -> Reader β}
    {text rest : List Char}
    {value : α}
    (step : first text = .ok (value, rest)) :
    (first >>= next) text = next value rest := by
  change (first text).bind (fun outcome => next outcome.1 outcome.2) = next value rest
  rw [step]
  rfl

theorem peek_cons
    {c : Char}
    (visible : isBlank c = false)
    (rest : List Char) :
    peek (c :: rest) = .ok (some c, c :: rest) := by
  simp [peek, visible]

theorem demand_cons
    {c : Char}
    (visible : isBlank c = false)
    (rest : List Char) :
    demand (c :: rest) = .ok (c, c :: rest) := by
  rw [demand, bind_eq (peek_cons visible rest)]
  rfl

theorem expect_cons
    {mark : Char}
    (visible : isBlank mark = false)
    (rest : List Char) :
    expect mark (mark :: rest) = .ok ((), rest) := by
  rw [expect, bind_eq (demand_cons visible rest), if_pos rfl]
  rfl

end Reader

/-! ## Simple values -/

/-- A digit is no blank. -/
theorem isBlank_of_isDigit
    {c : Char}
    (isDigit : c.isDigit = true) :
    isBlank c = false := by
  rw [← Bool.not_eq_true]
  intro blank
  simp only [isBlank, Bool.or_eq_true, decide_eq_true_eq] at blank
  rcases blank with ((rfl | rfl) | rfl) | rfl <;> exact absurd isDigit (by decide)

/-- The first character of a value is visible, is no closing bracket, and tells null from
other values. -/
theorem Value.chars_eq_cons (value : Value) :
    ∃ c rest, value.chars = c :: rest ∧ isBlank c = false ∧ c ≠ ']' ∧
      (c = 'n' -> value = .null) := by
  cases value with
  | null => exact ⟨'n', ['u', 'l', 'l'], rfl, rfl, by decide, fun _ => rfl⟩
  | boolean value =>
      cases value
      · exact ⟨'f', ['a', 'l', 's', 'e'], rfl, rfl, by decide, by simp⟩
      · exact ⟨'t', ['r', 'u', 'e'], rfl, rfl, by decide, by simp⟩
  | integer value =>
      cases value with
      | ofNat value =>
          obtain ⟨c, digits, shape, isDigit⟩ := exists_first_digit value
          refine ⟨c, digits, ?_, isBlank_of_isDigit isDigit, ?_, ?_⟩
          · rw [chars]
            exact shape
          · rintro rfl
            exact absurd isDigit (by decide)
          · rintro rfl
            exact absurd isDigit (by decide)
      | negSucc value =>
          exact ⟨'-', Nat.toDigits 10 (value + 1), rfl, rfl, by decide, by simp⟩
  | text value =>
      exact ⟨'"', value.toList.flatMap escapeText ++ ['"'], rfl, rfl, by decide, by simp⟩
  | list items => exact ⟨'[', itemChars items ++ [']'], rfl, rfl, by decide, by simp⟩
  | record members =>
      exact ⟨'\x7b', memberChars members ++ ['\x7d'], rfl, rfl, by decide, by simp⟩

/-- A text after its opening quote reads as the text. -/
theorem textBody_escaped (text : String) (rest : List Char) :
    Reader.textBody (text.toList.flatMap escapeText ++ '"' :: rest) = .ok (text, rest) := by
  rw [Reader.textBody, readBody_escaped_append]
  exact congrArg (fun text => Except.ok (text, rest)) String.ofList_toList

namespace Reads

theorem text (text : String) :
    Reads Reader.text (Value.text text).chars text := by
  intro rest _
  change Reader.text ('"' :: text.toList.flatMap escapeText ++ ['"'] ++ rest) = _
  rw [List.append_assoc, List.cons_append, List.singleton_append, Reader.text,
    Reader.bind_eq (Reader.demand_cons rfl _), if_pos rfl,
    Reader.bind_eq (rfl : Reader.advance _ = .ok ((), _))]
  exact textBody_escaped text rest

theorem boolean (value : Bool) :
    Reads Reader.boolean (Value.boolean value).chars value := by
  intro rest _
  cases value
  · change Reader.boolean ('f' :: 'a' :: 'l' :: 's' :: 'e' :: rest) = _
    rw [Reader.boolean, Reader.bind_eq (Reader.demand_cons rfl _)]
    rfl
  · change Reader.boolean ('t' :: 'r' :: 'u' :: 'e' :: rest) = _
    rw [Reader.boolean, Reader.bind_eq (Reader.demand_cons rfl _)]
    rfl

theorem uint32 (value : UInt32) :
    Reads Reader.uint32 (Value.integer value.toNat).chars value := by
  intro rest closes
  have small : value.toNat < 2 ^ 32 := value.toNat_lt
  obtain ⟨c, digits, shape, isDigit⟩ := exists_first_digit value.toNat
  have number :
      Reader.number (c :: (digits ++ rest)) = .ok (.integer value.toNat, rest) := by
    rw [← List.cons_append, ← shape]
    exact readNumber_toDigits_append (Nat.lt_trans small (by decide)) closes
  change Reader.uint32 (Nat.toDigits 10 value.toNat ++ rest) = _
  rw [shape, List.cons_append, Reader.uint32,
    Reader.bind_eq (Reader.demand_cons (isBlank_of_isDigit isDigit) _),
    if_pos (by simp [isDigit]), Reader.bind_eq number]
  simp only [Int.toNat_natCast]
  rw [if_pos (by simpa using small), UInt32.ofNat_toNat]
  rfl

/-- Null reads as nothing. -/
theorem nullable_none (reader : Reader α) :
    Reads (Reader.nullable reader) Value.null.chars none := by
  intro rest _
  change Reader.nullable reader ('n' :: 'u' :: 'l' :: 'l' :: rest) = _
  rw [Reader.nullable, Reader.bind_eq (Reader.peek_cons rfl _)]
  rfl

/-- What is not null reads as by the given reader. -/
theorem nullable_some
    {reader : Reader α}
    {document : Value}
    {value : α}
    (reads : Reads reader document.chars value)
    (notNull : document ≠ .null) :
    Reads (Reader.nullable reader) document.chars (some value) := by
  intro rest closes
  obtain ⟨c, others, shape, visible, -, startsNull⟩ := document.chars_eq_cons
  have step := reads rest closes
  rw [shape, List.cons_append] at step ⊢
  have notWord : c ≠ 'n' := fun isStart => notNull (startsNull isStart)
  rw [Reader.nullable, Reader.bind_eq (Reader.peek_cons visible _)]
  simp only [Option.some.injEq, notWord, imp_self]
  exact Reader.bind_eq step

end Reads

/-! ## Lists -/

/-- Parts with a comma in front of each but the first. -/
def separated (form : α -> List Char) : Bool -> List α -> List Char
  | _, [] => []
  | true, part :: parts => form part ++ separated form false parts
  | false, part :: parts => ',' :: form part ++ separated form false parts

/-- Behind a part of a list or a record stands a comma or the closing mark. -/
theorem Closes.separated
    {closing : List Char}
    (closes : Closes closing)
    (form : α -> List Char)
    (parts : List α) :
    Closes (separated form false parts ++ closing) := by
  cases parts with
  | nil => exact closes
  | cons part parts => exact .comma _

/-- Behind the first part each further one has a character of its own. -/
theorem length_le_length_separated
    (form : α -> List Char)
    (isFirst : Bool)
    (parts : List α) :
    parts.length ≤ (separated form isFirst parts).length + 1 := by
  induction parts generalizing isFirst with
  | nil => exact Nat.zero_le _
  | cons part parts inductionHypothesis =>
      have others : parts.length ≤ (separated form false parts).length := by
        cases parts with
        | nil => exact Nat.zero_le _
        | cons next parts =>
            have bound := inductionHypothesis true
            simp only [separated, List.length_append, List.length_cons] at bound ⊢
            omega
      cases isFirst <;>
        simp only [separated, List.length_append, List.length_cons] <;> omega

/-- The elements of a list are printed with commas between them. -/
theorem Value.itemChars_eq_separated (items : List Value) :
    itemChars items = separated chars true items := by
  induction items with
  | nil => rfl
  | cons item items inductionHypothesis =>
      cases items with
      | nil => simp [itemChars, separated]
      | cons next items =>
          rw [itemChars, inductionHypothesis]
          · rfl
          · simp

namespace Reader

/-- At the closing bracket no element follows. -/
theorem hasElement_bracket (isFirst : Bool) (rest : List Char) :
    hasElement isFirst (']' :: rest) = .ok (false, ']' :: rest) := by
  rw [hasElement, bind_eq (demand_cons rfl rest)]
  rfl

/-- At a further element of a list the reading goes on with its value. -/
theorem hasElement_separated
    (isFirst : Bool)
    (item : Value)
    (items : List Value)
    (rest : List Char) :
    hasElement isFirst (separated Value.chars isFirst (item :: items) ++ rest) =
      .ok (true, item.chars ++ (separated Value.chars false items ++ rest)) := by
  obtain ⟨c, others, shape, visible, notBracket, -⟩ := item.chars_eq_cons
  cases isFirst with
  | true =>
      rw [separated, List.append_assoc, shape, List.cons_append, hasElement,
        bind_eq (demand_cons visible _)]
      simp only
      rfl
  | false =>
      rw [separated, List.append_assoc, shape, List.cons_append, List.cons_append, hasElement,
        bind_eq (demand_cons rfl _)]
      change (advance >>= fun _ => demand >>= fun c =>
        if c = ']' then fail .malformed else pure true) (',' :: c :: _) = _
      rw [bind_eq (rfl : advance _ = .ok ((), _)), List.tail_cons,
        bind_eq (demand_cons visible _), if_neg notBracket]
      rfl

/-- The elements of a list are read up to its end. -/
theorem elements_separated
    {reader : Reader α}
    {values : List α}
    {documents : List Value}
    (reads : List.Forall₂ (fun value document => Reads reader document.chars value)
      values documents)
    {fuel : Nat}
    (enough : documents.length < fuel)
    (isFirst : Bool)
    (rest : List Char) :
    elements reader fuel isFirst
        (separated Value.chars isFirst documents ++ ']' :: rest) =
      .ok (values, rest) := by
  induction reads generalizing fuel isFirst with
  | nil =>
      obtain ⟨fuel, rfl⟩ := Nat.exists_eq_add_one_of_ne_zero (Nat.ne_of_gt enough)
      rw [separated, List.nil_append, elements, bind_eq (hasElement_bracket _ _)]
      rfl
  | @cons value document values documents first _ inductionHypothesis =>
      obtain ⟨fuel, rfl⟩ := Nat.exists_eq_add_one_of_ne_zero (Nat.ne_zero_of_lt enough)
      rw [elements, bind_eq (hasElement_separated isFirst document documents _), if_pos rfl,
        bind_eq (first _ ((Closes.bracket rest).separated _ _)),
        bind_eq (inductionHypothesis (Nat.lt_of_succ_lt_succ enough) false)]
      rfl

end Reader

/-- A list reads as the values of its elements. -/
theorem Reads.list
    {reader : Reader α}
    {values : List α}
    {documents : List Value}
    (reads : List.Forall₂ (fun value document => Reads reader document.chars value)
      values documents) :
    Reads (Reader.list reader) (Value.list documents).chars values := by
  intro rest _
  have enough := length_le_length_separated Value.chars true documents
  change Reader.list reader ('[' :: Value.itemChars documents ++ [']'] ++ rest) = _
  rw [List.append_assoc, List.cons_append, List.singleton_append, Reader.list,
    Reader.bind_eq (Reader.demand_cons rfl _), if_pos rfl,
    Reader.bind_eq (rfl : Reader.advance _ = .ok ((), _)),
    Reader.bind_eq (rfl : Reader.fuel _ = .ok (_, _)), List.tail_cons,
    Value.itemChars_eq_separated]
  refine Reader.elements_separated reads ?_ true rest
  simp only [List.length_append, List.length_cons]
  omega

end Json
end TableTypes
