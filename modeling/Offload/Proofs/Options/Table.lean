import Mathlib.Data.List.Nodup
import Offload.Options.Builtin
import Offload.Proofs.Options.Spelling

/-! # Tables in which a spelling names one option

In a regular table no two options share a key, a flag or a variable, and flags and variables begin
with the current name of the driver. So the spellings of an option are known, and none of them is a
spelling of another one. The built-in table is regular. Where only arguments are looked at, it is
enough that the flags are so (`Table.Flagged`), and an argument names one option at most
(`Flagged.byFlag_upgrade_eq_some_iff`).
-/

namespace Offload.Options

/-- A table whose flags and variables each belong to one option and have current spellings. -/
structure Table.Regular (table : Table) : Prop where
  keys : (table.map (·.key)).Nodup
  flags : (table.map (·.flag)).Nodup
  envNames : (table.map (·.envName)).Nodup
  flag : ∀ option ∈ table, "--acpp-".toList <+: option.flag.toList ∧ '=' ∉ option.flag.toList
  envName : ∀ option ∈ table, "ACPP_".toList <+: option.envName.toList

/-- A table whose flags each belong to one option and have current spellings. -/
structure Table.Flagged (table : Table) : Prop where
  distinct : (table.map (·.flag)).Nodup
  current : ∀ option ∈ table, "--acpp-".toList <+: option.flag.toList ∧ '=' ∉ option.flag.toList

/-- The text of an argument before its first `=`, or all of it, is a spelling of the option's flag. -/
def Entry.NamedBy (option : Entry) (argument : String) : Prop :=
  ∃ tail, option.flag = "--acpp-" ++ tail ∧
    (Spelling.cut argument).1 ∈ Spelling.flagSpellings tail

namespace Table

variable {table : Table} {option : Entry}

/-- Where no two options share a spelling, it finds its option. -/
theorem find_eq_some_iff {spelling : Entry → String} (distinct : (table.map spelling).Nodup)
    {name : String} : List.find? (spelling · == name) table = some option ↔
      option ∈ table ∧ spelling option = name := by
  constructor
  · intro found
    exact ⟨List.mem_of_find?_eq_some found, by simpa using List.find?_some found⟩
  · rintro ⟨member, rfl⟩
    cases found : List.find? (spelling · == spelling option) table with
    | none => exact absurd (beq_self_eq_true _) (List.find?_eq_none.mp found option member)
    | some other =>
      have same : spelling other = spelling option := by simpa using List.find?_some found
      exact congrArg some
        (List.inj_on_of_nodup_map distinct (List.mem_of_find?_eq_some found) member same)

private theorem exists_eq_append {front text : String} (begins : front.toList <+: text.toList) :
    ∃ tail, text = front ++ tail := by
  obtain ⟨tail, same⟩ := begins
  refine ⟨String.ofList tail, String.toList_inj.mp ?_⟩
  rw [← same, String.toList_append, String.toList_ofList]

namespace Flagged

variable {argument : String}

theorem byFlag_eq_some_iff (flagged : table.Flagged) {name : String} :
    table.byFlag? name = some option ↔ option ∈ table ∧ option.flag = name :=
  find_eq_some_iff flagged.distinct

theorem exists_flag (flagged : table.Flagged) (member : option ∈ table) :
    ∃ tail, option.flag = "--acpp-" ++ tail :=
  exists_eq_append (flagged.current option member).1

/-- An argument names the option whose flag its name is once upgraded. -/
theorem namedBy_iff (flagged : table.Flagged) (member : option ∈ table) :
    option.NamedBy argument ↔ Spelling.upgrade (Spelling.cut argument).1 = option.flag := by
  constructor
  · rintro ⟨tail, flag, spelled⟩
    exact (Spelling.upgrade_eq_flag_iff.mpr spelled).trans flag.symm
  · intro upgraded
    obtain ⟨tail, flag⟩ := flagged.exists_flag member
    exact ⟨tail, flag, Spelling.upgrade_eq_flag_iff.mp (upgraded.trans flag)⟩

theorem byFlag_upgrade_eq_some_iff (flagged : table.Flagged) :
    table.byFlag? (Spelling.upgrade (Spelling.cut argument).1) = some option ↔
      option ∈ table ∧ option.NamedBy argument := by
  rw [flagged.byFlag_eq_some_iff, eq_comm]
  exact and_congr_right fun member => (flagged.namedBy_iff member).symm

/-- A name that is a flag as it is written is the same flag once upgraded. -/
theorem namedBy_of_byFlag (flagged : table.Flagged)
    (found : table.byFlag? (Spelling.cut argument).1 = some option) : option.NamedBy argument := by
  obtain ⟨member, spelled⟩ := flagged.byFlag_eq_some_iff.mp found
  obtain ⟨tail, flag⟩ := flagged.exists_flag member
  refine ⟨tail, flag, ?_⟩
  rw [← spelled, flag]
  exact List.mem_cons_self ..

end Flagged

namespace Regular

theorem flagged (regular : table.Regular) : table.Flagged :=
  ⟨regular.flags, regular.flag⟩

theorem find?_eq_some_iff (regular : table.Regular) {key : String} :
    table.find? key = some option ↔ option ∈ table ∧ option.key = key :=
  find_eq_some_iff regular.keys

theorem byFlag_eq_some_iff (regular : table.Regular) {name : String} :
    table.byFlag? name = some option ↔ option ∈ table ∧ option.flag = name :=
  regular.flagged.byFlag_eq_some_iff

theorem byEnvName_eq_some_iff (regular : table.Regular) {name : String} :
    table.byEnvName? name = some option ↔ option ∈ table ∧ option.envName = name :=
  find_eq_some_iff regular.envNames

theorem eq_of_key (regular : table.Regular) (member : option ∈ table) {other : Entry}
    (present : other ∈ table) (same : other.key = option.key) : other = option :=
  List.inj_on_of_nodup_map regular.keys present member same

theorem exists_flag (regular : table.Regular) (member : option ∈ table) :
    ∃ tail, option.flag = "--acpp-" ++ tail :=
  regular.flagged.exists_flag member

theorem exists_envName (regular : table.Regular) (member : option ∈ table) :
    ∃ tail, option.envName = "ACPP_" ++ tail :=
  exists_eq_append (regular.envName option member)

/-- A name that is a variable as it is written is the same variable once upgraded. -/
theorem byEnvName_upgrade (regular : table.Regular) {name : String}
    (found : table.byEnvName? name = some option) :
    table.byEnvName? (Spelling.upgrade name) = some option := by
  obtain ⟨member, rfl⟩ := regular.byEnvName_eq_some_iff.mp found
  obtain ⟨tail, spelled⟩ := regular.exists_envName member
  have kept : Spelling.upgrade option.envName = option.envName := by
    rw [spelled]
    exact Spelling.upgrade_eq_variable_iff.mpr (List.mem_cons_self ..)
  rw [kept]
  exact found

/-- A name with another beginning is no variable of the table. -/
theorem byEnvName_eq_none (regular : table.Regular) {name : String}
    (other : ¬ "ACPP_".toList <+: name.toList) : table.byEnvName? name = none := by
  cases found : table.byEnvName? name with
  | none => rfl
  | some option =>
    obtain ⟨member, rfl⟩ := regular.byEnvName_eq_some_iff.mp found
    exact absurd (regular.envName option member) other

end Regular

theorem regular_builtin : builtin.Regular := by
  constructor <;> decide +kernel

end Table

end Offload.Options
