import TableTypes.Declaration
import TableTypes.Proofs.Casing.Capitals
import TableTypes.Proofs.Casing.Spelled

/-!
# Names of static types

The name of the static type of a table is the emitted name followed by `Type`, cased as
a whole. Casing the emitted name a second time can change it, and then two tables with
different emitted names can get one name for their types. The type is named by the
emitted name and the suffix alone exactly when these are spelled in the casing, which
shows in an ASCII name by its capitals.
-/

namespace TableTypes
namespace TableDecl

open Casing

/-- The emitted name of a table followed by `Type`. -/
def suffixedName (table : TableDecl) : String :=
  table.emittedName ++ "Type"

theorem typeName_named (casing : Casing) (name : String) :
    (named casing name).typeName = casing.apply (named casing name).suffixedName := rfl

/-- A spelling with its suffix is made of letters and digits, and no lower case letter
follows a digit in it. -/
theorem suffixed_spell (starts : Bool) (name : List Char) :
    let text := spell starts name ++ "Type".toList
    text.all Char.isAlphanum = true ∧ NoLowerAfterDigit text := by
  intro text
  have suffixNoLower : NoLowerAfterDigit "Type".toList := by
    unfold NoLowerAfterDigit
    decide +kernel
  constructor
  · rw [List.all_append, all_isAlphanum_spell]
    decide +kernel
  · refine List.isChain_append.mpr
      ⟨noLowerAfterDigit_spell starts name, suffixNoLower, ?_⟩
    intro last _ first isFirst _
    obtain rfl : 'T' = first := by simpa using isFirst
    rfl

/-- The characters of an emitted ASCII name with its suffix. -/
theorem toList_suffixedName
    {casing : Casing}
    (recased : casing ≠ .verbatim)
    {name : String}
    (ascii : IsAscii name.toList) :
    (named casing name).suffixedName.toList =
      spell (casing = .pascal) name.toList ++ "Type".toList := by
  rw [suffixedName, String.toList_append, ← toList_apply_of_ascii recased ascii]
  rfl

/-- An ASCII table is named in its type by the emitted name and the suffix exactly when
the capitals of these are where the casing puts them. -/
theorem typeName_eq_iff_of_ascii
    (casing : Casing)
    {name : String}
    (ascii : IsAscii name.toList) :
    (named casing name).typeName = (named casing name).suffixedName ↔
      casing.KeepsCapitals (named casing name).suffixedName.toList := by
  by_cases recased : casing = .verbatim
  · rw [recased]
    exact iff_of_true (apply_verbatim _) (Or.inl rfl)
  · have text := toList_suffixedName recased ascii
    obtain ⟨textKept, noLower⟩ := suffixed_spell (casing = .pascal) name.toList
    rw [← text] at textKept noLower
    rw [KeepsCapitals, or_iff_right recased, ← String.toList_inj, typeName_named,
      toList_apply_of_ascii recased (isAscii_of_all_isAlphanum textKept),
      spell_eq_self_iff textKept noLower]
    refine and_congr_left' ?_
    cases casing with
    | verbatim => exact absurd rfl recased
    | camel => exact ⟨fun small _ => small, fun small => small rfl⟩
    | pascal =>
        -- The emitted name starts with a word, and so does `Type`.
        refine iff_of_true ?_ nofun
        have noLowerHead := head?_spell_true name.toList
        rw [text]
        change Option.any Char.isLower (spell true name.toList ++ _).head? = false
        cases spelled : spell true name.toList with
        | nil => decide +kernel
        | cons c rest =>
            rw [spelled] at noLowerHead
            exact noLowerHead

/-- ASCII tables with one type name have emitted names that differ in letter case at
most. -/
theorem map_toLower_emittedName_of_typeName_eq
    {casing : Casing}
    {name other : String}
    (ascii : IsAscii name.toList)
    (otherAscii : IsAscii other.toList)
    (same : (named casing name).typeName = (named casing other).typeName) :
    (named casing name).emittedName.toList.map Char.toLower =
      (named casing other).emittedName.toList.map Char.toLower := by
  by_cases recased : casing = .verbatim
  · rw [typeName_named, typeName_named, recased, apply_verbatim, apply_verbatim] at same
    rw [recased, (String.append_left_inj "Type").mp same]
  · have folded {table : String} (tableAscii : IsAscii table.toList) :
        (named casing table).typeName.toList.map Char.toLower =
          (named casing table).emittedName.toList.map Char.toLower
            ++ "Type".toList.map Char.toLower := by
      have text := toList_suffixedName recased tableAscii
      obtain ⟨textKept, _⟩ := suffixed_spell (casing = .pascal) table.toList
      rw [← text] at textKept
      rw [typeName_named,
        toList_apply_of_ascii recased (isAscii_of_all_isAlphanum textKept),
        map_toLower_spell,
        List.filter_eq_self.mpr (List.all_eq_true.mp textKept), suffixedName,
        String.toList_append, List.map_append]
    have equal := folded ascii
    rw [same, folded otherAscii] at equal
    exact (List.append_cancel_right equal).symm

/-- The static type of a table is named by casing the emitted name with the suffix as a
whole. This is the emitted name followed by `Type` exactly when the two together are
spelled in the casing, and in an ASCII name exactly when the capitals of the two are
where the casing puts them. Tables of this kind with different emitted names have
different types, and ASCII tables can only share a type name when their emitted names
differ in letter case alone. -/
theorem typeName_eq_suffixedName_iff (casing : Casing) (name : String) :
    let table := named casing name
    table.typeName = casing.apply table.suffixedName ∧
      (table.typeName = table.suffixedName ↔
        casing.IsSpelled table.suffixedName.toList) ∧
      (IsAscii name.toList ->
        (table.typeName = table.suffixedName ↔
          casing.KeepsCapitals table.suffixedName.toList)) ∧
      ∀ otherName : String,
        let other := named casing otherName
        (casing.IsSpelled table.suffixedName.toList ->
          casing.IsSpelled other.suffixedName.toList ->
            table.emittedName ≠ other.emittedName ->
              table.typeName ≠ other.typeName) ∧
        (IsAscii name.toList -> IsAscii otherName.toList ->
          table.emittedName.toList.map Char.toLower ≠
              other.emittedName.toList.map Char.toLower ->
            table.typeName ≠ other.typeName) := by
  have spelled (name : String) :
      (named casing name).typeName = (named casing name).suffixedName ↔
        casing.IsSpelled (named casing name).suffixedName.toList := by
    rw [typeName_named, ← recase_eq_self_iff, ← String.toList_inj, apply,
      String.toList_ofList]
  intro table
  refine ⟨rfl, spelled name, typeName_eq_iff_of_ascii casing, fun otherName => ?_⟩
  intro other
  constructor
  · intro tableSpelled otherSpelled different same
    rw [(spelled name).mpr tableSpelled, (spelled otherName).mpr otherSpelled] at same
    exact different ((String.append_left_inj "Type").mp same)
  · intro ascii otherAscii different same
    exact different (map_toLower_emittedName_of_typeName_eq ascii otherAscii same)

/-- `user_accounts` and `userRoles` in Pascal case are named in their types by their
emitted names, and the types of `a_b` and `a_c` differ although they are not. -/
theorem userAccounts_and_initials_name_types :
    let accounts := named .pascal "user_accounts"
    let roles := named .pascal "userRoles"
    Casing.pascal.IsSpelled accounts.suffixedName.toList ∧
      Casing.pascal.IsSpelled roles.suffixedName.toList ∧
      Casing.pascal.KeepsCapitals accounts.suffixedName.toList ∧
      accounts.typeName = "UserAccountsType" ∧
      accounts.typeName ≠ roles.typeName ∧
      (named .pascal "a_b").typeName = "AbType" ∧
      (named .pascal "a_b").typeName ≠ (named .pascal "a_c").typeName := by
  intro accounts roles
  have ascii : IsAscii "user_accounts".toList := by decide +kernel
  have firstAscii : IsAscii "a_b".toList := by decide +kernel
  have secondAscii : IsAscii "a_c".toList := by decide +kernel
  have accountsType : accounts.typeName = accounts.suffixedName := by decide +kernel
  have rolesType : roles.typeName = roles.suffixedName := by decide +kernel
  obtain ⟨_, accountsIff, capitalsIff, distinct⟩ :=
    typeName_eq_suffixedName_iff .pascal "user_accounts"
  obtain ⟨_, rolesIff, _, _⟩ := typeName_eq_suffixedName_iff .pascal "userRoles"
  obtain ⟨_, _, _, initialsDistinct⟩ := typeName_eq_suffixedName_iff .pascal "a_b"
  have accountsSpelled := accountsIff.mp accountsType
  have rolesSpelled := rolesIff.mp rolesType
  refine ⟨accountsSpelled, rolesSpelled, (capitalsIff ascii).mp accountsType,
    by decide +kernel, ?_, by decide +kernel, ?_⟩
  · exact (distinct "userRoles").1 accountsSpelled rolesSpelled (by decide +kernel)
  · exact (initialsDistinct "a_c").2 firstAscii secondAscii (by decide +kernel)

/-- Single letters become a run of capitals, which the second casing takes for one word.
Two tables with different emitted names get one type name so. -/
theorem initials_share_typeName :
    (named .pascal "a_b").emittedName = "AB" ∧
      (named .pascal "ab").emittedName = "Ab" ∧
      (named .pascal "a_b").typeName = "AbType" ∧
      (named .pascal "ab").typeName = "AbType" ∧
      (named .pascal "a_b").typeName ≠ (named .pascal "a_b").emittedName ++ "Type" := by
  decide +kernel

end TableDecl
end TableTypes
