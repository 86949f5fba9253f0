import Offload.Proofs.Settings.Layers

/-! # What becomes of each argument

The driver's arguments and those for the compiler are the two sides of one splitting of the list
(`Interleaving`), told apart by the names of options alone (`recipient_eq_driver_iff`). Of the
driver's arguments none is passed over: `Recorded` has a rule for an argument that gives its option a
value and one for an argument that lacks it, and no third one. Flags must be distinct and current for
this; keys and variables need not be.
-/

namespace Offload.Settings

open Options

/-- A list that is split in two: each element goes to one side, and both sides keep their order. -/
inductive Interleaving {α : Type} : List α → List α → List α → Prop where
  | nil : Interleaving [] [] []
  | left {a : α} {first second whole : List α} (rest : Interleaving first second whole) :
    Interleaving (a :: first) second (a :: whole)
  | right {a : α} {first second whole : List α} (rest : Interleaving first second whole) :
    Interleaving first (a :: second) (a :: whole)

theorem interleaving_filter {α : Type} {first second : α → Bool}
    (opposite : ∀ a, second a = !first a) (whole : List α) :
    Interleaving (whole.filter first) (whole.filter second) whole := by
  induction whole with
  | nil => exact .nil
  | cons a whole ih =>
    rw [List.filter_cons, List.filter_cons, opposite a]
    cases first a with
    | true => exact .left ih
    | false => exact .right ih

/-- An argument that names an option without the value that the option needs. -/
structure LacksValue (option : Entry) (argument : String) : Prop where
  named : option.NamedBy argument
  valued : option.isSwitch = false
  bare : '=' ∉ argument.toList

/-- What arguments come to, starting from the values so far: each one that names an option gives it a
value, up to the first that lacks it. -/
inductive Recorded (table : Table) :
    Dictionary Value → List String → Except Fault (Dictionary Value) → Prop where
  | done (values : Dictionary Value) : Recorded table values [] (.ok values)
  | record {values : Dictionary Value} {argument : String} {rest : List String} {option : Entry}
    {result : Except Fault (Dictionary Value)} (member : option ∈ table)
    (named : option.NamedBy argument) (complete : ¬ LacksValue option argument)
    (later : Recorded table (Dictionary.insert option.key (given option argument) values) rest
      result) : Recorded table values (argument :: rest) result
  | refuse {values : Dictionary Value} {argument : String} {rest : List String} {option : Entry}
    (member : option ∈ table) (lacks : LacksValue option argument) :
    Recorded table values (argument :: rest) (.error (.missingValue option.flag))

section Arguments

variable {table : Table} {option : Entry} {argument : String}

/-- An argument is the driver's exactly if it names an option. -/
theorem recipient_eq_driver_iff (flagged : table.Flagged) :
    recipient table argument = .driver ↔ ∃ option ∈ table, option.NamedBy argument := by
  unfold recipient optionNamed?
  rw [Spelling.cut_upgrade, ite_eq_left_iff]
  simp only [Bool.or_eq_true, Option.isSome_iff_exists, reduceCtorEq, imp_false, not_not]
  constructor
  · rintro (⟨option, written⟩ | ⟨option, upgraded⟩)
    · exact ⟨option, (flagged.byFlag_eq_some_iff.mp written).1, flagged.namedBy_of_byFlag written⟩
    · exact ⟨option, flagged.byFlag_upgrade_eq_some_iff.mp upgraded⟩
  · rintro ⟨option, names⟩
    exact .inr ⟨option, flagged.byFlag_upgrade_eq_some_iff.mpr names⟩

theorem mem_consumedArguments_iff (flagged : table.Flagged) {arguments : List String} :
    argument ∈ consumedArguments table arguments ↔
      argument ∈ arguments ∧ ∃ option ∈ table, option.NamedBy argument := by
  unfold consumedArguments
  rw [List.mem_filter, beq_iff_eq, recipient_eq_driver_iff flagged]

theorem mem_forwardedArguments_iff (flagged : table.Flagged) {arguments : List String} :
    argument ∈ forwardedArguments table arguments ↔
      argument ∈ arguments ∧ ¬ ∃ option ∈ table, option.NamedBy argument := by
  unfold forwardedArguments
  rw [List.mem_filter, beq_iff_eq, ← recipient_eq_driver_iff flagged]
  cases recipient table argument <;> simp

/-- Two options that are named by one argument are the same. -/
theorem eq_of_namedBy (flagged : table.Flagged) (member : option ∈ table)
    (named : option.NamedBy argument) {other : Entry} (present : other ∈ table)
    (also : other.NamedBy argument) : other = option := by
  have first := flagged.byFlag_upgrade_eq_some_iff.mpr ⟨member, named⟩
  have second := flagged.byFlag_upgrade_eq_some_iff.mpr ⟨present, also⟩
  exact Option.some.inj (second.symm.trans first)

theorem assignment_of_lacksValue (flagged : table.Flagged) (member : option ∈ table)
    (lacks : LacksValue option argument) :
    assignment? table argument = .error (.missingValue option.flag) := by
  have found := flagged.byFlag_eq_some_iff.mpr ⟨member, rfl⟩
  unfold assignment?
  rw [Spelling.cut_upgrade, (flagged.namedBy_iff member).mp lacks.named,
    Spelling.cut_snd_eq_none_iff.mpr lacks.bare]
  simp only [found, lacks.valued, Bool.false_eq_true, if_false]

theorem assignment_of_namedBy (flagged : table.Flagged) (member : option ∈ table)
    (named : option.NamedBy argument) (complete : ¬ LacksValue option argument) :
    assignment? table argument = .ok (some (option, given option argument)) := by
  have found := flagged.byFlag_upgrade_eq_some_iff.mpr ⟨member, named⟩
  unfold assignment? given
  rw [Spelling.cut_upgrade]
  cases text : (Spelling.cut argument).2 with
  | some text => simp only [found]
  | none =>
    have switch : option.isSwitch = true := by
      by_contra valued
      exact complete
        ⟨named, Bool.eq_false_iff.mpr valued, Spelling.cut_snd_eq_none_iff.mp text⟩
    simp only [found, switch, if_true]

theorem assignment_of_not_namedBy (flagged : table.Flagged)
    (unnamed : ¬ ∃ option ∈ table, option.NamedBy argument) :
    assignment? table argument = .ok none := by
  have missing : table.byFlag? (Spelling.upgrade (Spelling.cut argument).1) = none := by
    apply Option.eq_none_iff_forall_ne_some.mpr
    intro option found
    exact unnamed ⟨option, flagged.byFlag_upgrade_eq_some_iff.mp found⟩
  unfold assignment?
  rw [Spelling.cut_upgrade]
  simp only [missing]

/-- Why an argument is refused. -/
def refusal? (table : Table) (argument : String) : Option Fault :=
  match assignment? table argument with
  | .error fault => some fault
  | .ok _ => none

/-- An argument is refused exactly if it names an option that takes a value and gives none. -/
theorem refusal?_eq_some_iff (flagged : table.Flagged) {fault : Fault} :
    refusal? table argument = some fault ↔
      ∃ option ∈ table, LacksValue option argument ∧ fault = .missingValue option.flag := by
  unfold refusal?
  constructor
  · intro refused
    by_cases named : ∃ option ∈ table, option.NamedBy argument
    · obtain ⟨option, member, named⟩ := named
      by_cases lacks : LacksValue option argument
      · rw [assignment_of_lacksValue flagged member lacks] at refused
        exact ⟨option, member, lacks, (Option.some.inj refused).symm⟩
      · rw [assignment_of_namedBy flagged member named lacks] at refused
        contradiction
    · rw [assignment_of_not_namedBy flagged named] at refused
      contradiction
  · rintro ⟨option, member, lacks, rfl⟩
    rw [assignment_of_lacksValue flagged member lacks]

theorem refusal?_eq_none_iff (flagged : table.Flagged) :
    refusal? table argument = none ↔ ∀ option ∈ table, ¬ LacksValue option argument := by
  rw [Option.eq_none_iff_forall_ne_some]
  constructor
  · intro never option member lacks
    exact never _ ((refusal?_eq_some_iff flagged).mpr ⟨option, member, lacks, rfl⟩)
  · intro never fault refused
    obtain ⟨option, member, lacks, -⟩ := (refusal?_eq_some_iff flagged).mp refused
    exact never option member lacks

/-- Arguments fail with the refusal of the first one that is refused. -/
theorem assign_eq_error_iff {values : Dictionary Value} {arguments : List String} {fault : Fault} :
    assign table values arguments = .error fault ↔
      arguments.findSome? (refusal? table) = some fault := by
  induction arguments generalizing values with
  | nil => simp [assign]
  | cons argument rest ih =>
    unfold assign
    rw [List.findSome?_cons]
    unfold refusal?
    cases assignment? table argument with
    | error refused => simp
    | ok gift => cases gift with
      | none => exact ih
      | some pair => exact ih

/-- The command line fails with the option that the first argument without a needed value names. -/
theorem commandLineValues_eq_error_iff (flagged : table.Flagged) {arguments : List String}
    {fault : Fault} :
    commandLineValues table (consumedArguments table arguments) = .error fault ↔
      ∃ front argument back, arguments = front ++ argument :: back ∧
        (∀ earlier ∈ front, ∀ option ∈ table, ¬ LacksValue option earlier) ∧
        ∃ option ∈ table, LacksValue option argument ∧ fault = .missingValue option.flag := by
  rw [commandLineValues_consumed, assign_eq_error_iff, List.findSome?_eq_some_iff]
  simp only [refusal?_eq_some_iff flagged, refusal?_eq_none_iff flagged]
  constructor
  · rintro ⟨front, argument, back, split, refused, accepted⟩
    exact ⟨front, argument, back, split, accepted, refused⟩
  · rintro ⟨front, argument, back, split, accepted, refused⟩
    exact ⟨front, argument, back, split, refused, accepted⟩

/-- Arguments that all name options are recorded one after the other. -/
theorem recorded_assign (flagged : table.Flagged) {arguments : List String}
    (named : ∀ argument ∈ arguments, ∃ option ∈ table, option.NamedBy argument)
    (values : Dictionary Value) : Recorded table values arguments (assign table values arguments) := by
  induction arguments generalizing values with
  | nil => exact .done values
  | cons argument rest ih =>
    obtain ⟨⟨option, member, names⟩, others⟩ := List.forall_mem_cons.mp named
    unfold assign
    by_cases lacks : LacksValue option argument
    · rw [assignment_of_lacksValue flagged member lacks]
      exact .refuse member lacks
    · rw [assignment_of_namedBy flagged member names lacks]
      exact .record member names lacks (ih others _)

/-- Every argument goes to the driver or to the compiler, to the driver exactly if it names an option,
and it names one only, the same as it is written and once upgraded. Every argument of the driver is
recorded for its option, or lacks a value and is an error. -/
theorem arguments_accounted_for (flagged : table.Flagged) (arguments : List String) :
    Interleaving (consumedArguments table arguments) (forwardedArguments table arguments)
        arguments ∧
      (∀ argument ∈ consumedArguments table arguments, ∃ option ∈ table,
        option.NamedBy argument ∧ (∀ other ∈ table, other.NamedBy argument → other = option) ∧
          ∀ other, optionNamed? table argument = some other → other = option) ∧
      (∀ argument ∈ forwardedArguments table arguments, ∀ option ∈ table,
        ¬ option.NamedBy argument) ∧
      Recorded table [] (consumedArguments table arguments)
        (commandLineValues table (consumedArguments table arguments)) := by
  refine ⟨interleaving_filter ?_ arguments, ?_, ?_, ?_⟩
  · intro argument
    cases recipient table argument <;> rfl
  · intro argument consumed
    obtain ⟨-, option, member, named⟩ := (mem_consumedArguments_iff flagged).mp consumed
    refine ⟨option, member, named, fun other => eq_of_namedBy flagged member named, ?_⟩
    intro other written
    exact eq_of_namedBy flagged member named (flagged.byFlag_eq_some_iff.mp written).1
      (flagged.namedBy_of_byFlag written)
  · intro argument forwarded option member named
    exact ((mem_forwardedArguments_iff flagged).mp forwarded).2 ⟨option, member, named⟩
  · exact recorded_assign flagged
      (fun argument consumed => ((mem_consumedArguments_iff flagged).mp consumed).2) []

/-- A legacy spelling with a second `=`, an argument for the compiler, a bare switch, and an option that
lacks its value. -/
theorem arguments_accounted_for_builtin : Table.builtin.Flagged ∧
    Interleaving ["--hipsycl-clang=a=b", "--acpp-dryrun", "--acpp-targets"] ["--acpp=1"]
      ["--hipsycl-clang=a=b", "--acpp=1", "--acpp-dryrun", "--acpp-targets"] ∧
    Recorded Table.builtin [] ["--hipsycl-clang=a=b", "--acpp-dryrun", "--acpp-targets"]
      (.error (.missingValue "--acpp-targets")) := by
  have flagged := Table.regular_builtin.flagged
  obtain ⟨split, -, -, recorded⟩ := arguments_accounted_for flagged
    ["--hipsycl-clang=a=b", "--acpp=1", "--acpp-dryrun", "--acpp-targets"]
  exact ⟨flagged, split, recorded⟩

end Arguments

end Offload.Settings
