import Offload.Proofs.Settings.Arguments

/-! # What is said about one switch

Arguments, variables and configuration entries of one switch change nothing but that switch: other
settings, the arguments for the compiler and the fault, if there is one, are the same whether they are
there or not (`resolve_of_sameBut`). For an option that takes a value this would not hold, since an
argument that lacks one is a fault.
-/

namespace Offload.Settings

open Options

/-- Arguments without those that name the flag with this ending. -/
def withoutFlag (tail : String) (arguments : List String) : List String :=
  arguments.filter fun argument => (Spelling.cut argument).1 ∉ Spelling.flagSpellings tail

/-- An environment without the variable with this ending, in any spelling. -/
def withoutVariable (tail : String) (environment : Environment) : Environment :=
  environment.filter fun entry => entry.1 ∉ Spelling.variableSpellings tail

/-- Two inputs that differ in nothing but what they say about one option, which has a flag and a
variable with these endings and this configuration key. -/
structure SameBut (flagTail nameTail configKey : String) (arguments arguments' : List String)
    (environment environment' : Environment) (defaults defaults' : Defaults) : Prop where
  arguments : withoutFlag flagTail arguments = withoutFlag flagTail arguments'
  environment : withoutVariable nameTail environment = withoutVariable nameTail environment'
  defaults : ∀ key, key ≠ configKey → defaults.lookup? key = defaults'.lookup? key

/-- Settings that read alike but for one key, with the same arguments for the compiler. -/
structure AgreeOff (key : String) (settings settings' : Settings) : Prop where
  forwarded : settings.forwarded = settings'.forwarded
  entry : ∀ other, other ≠ key → settings.entry other = settings'.entry other

/-- A switch of a regular table, with the endings of its flag and its variable, whose configuration key
is no other option's. -/
structure IsSwitch (table : Table) (option : Entry) (flagTail nameTail : String) : Prop where
  regular : table.Regular
  member : option ∈ table
  switch : option.isSwitch = true
  flag : option.flag = "--acpp-" ++ flagTail
  envName : option.envName = "ACPP_" ++ nameTail
  configKey : ∀ other ∈ table, other.key ≠ option.key → other.configKey ≠ option.configKey

section Frame

variable {table : Table} {option : Entry} {flagTail nameTail : String}

theorem IsSwitch.namedBy (isSwitch : IsSwitch table option flagTail nameTail) {argument : String}
    (named : (Spelling.cut argument).1 ∈ Spelling.flagSpellings flagTail) :
    option.NamedBy argument :=
  ⟨flagTail, isSwitch.flag, named⟩

/-- No argument for a switch is refused. -/
theorem IsSwitch.assignment (isSwitch : IsSwitch table option flagTail nameTail) {argument : String}
    (named : (Spelling.cut argument).1 ∈ Spelling.flagSpellings flagTail) :
    assignment? table argument = .ok (some (option, given option argument)) := by
  refine assignment_of_namedBy isSwitch.regular.flagged isSwitch.member (isSwitch.namedBy named) ?_
  intro lacks
  exact absurd (isSwitch.switch.symm.trans lacks.valued) (by decide)

theorem findSome?_refusal_withoutFlag (isSwitch : IsSwitch table option flagTail nameTail)
    (arguments : List String) : (withoutFlag flagTail arguments).findSome? (refusal? table) =
      arguments.findSome? (refusal? table) := by
  induction arguments with
  | nil => rfl
  | cons argument rest ih =>
    unfold withoutFlag at ih ⊢
    by_cases named : (Spelling.cut argument).1 ∈ Spelling.flagSpellings flagTail
    · have accepted : refusal? table argument = none := by
        unfold refusal?
        rw [isSwitch.assignment named]
      rw [List.filter_cons_of_neg (by simpa using named), List.findSome?_cons, accepted]
      exact ih
    · rw [List.filter_cons_of_pos (by simpa using named), List.findSome?_cons, List.findSome?_cons,
        ih]

/-- What the command line gives to any other option. -/
theorem lookup_assigned_withoutFlag (isSwitch : IsSwitch table option flagTail nameTail)
    {key : String} (differs : key ≠ option.key) (arguments : List String) :
    Dictionary.lookup? ((withoutFlag flagTail arguments).filterMap (assigned table)).reverse key =
      Dictionary.lookup? (arguments.filterMap (assigned table)).reverse key := by
  apply Dictionary.lookup_reverse_filterMap_filter
  intro argument dropped value gave
  unfold assigned at gave
  rw [isSwitch.assignment (by simpa using dropped)] at gave
  exact differs (congrArg Prod.fst (Option.some.inj gave)).symm

/-- What the environment gives to any other option, by variables of one kind. -/
theorem lookup_collect_withoutVariable {key : String} {named? : String → Option Entry}
    (names : ∀ name ∈ Spelling.variableSpellings nameTail, ∀ other, named? name = some other →
      other.key ≠ key) (environment : Environment) :
    Dictionary.lookup? (collect named? (withoutVariable nameTail environment)) key =
      Dictionary.lookup? (collect named? environment) key := by
  rw [collect_eq_foldl, collect_eq_foldl, Dictionary.lookup_foldl_insert,
    Dictionary.lookup_foldl_insert]
  apply congrArg (Option.or · _)
  apply Dictionary.lookup_reverse_filterMap_filter
  intro entry dropped value gave
  obtain ⟨other, found, same⟩ := Option.map_eq_some_iff.mp gave
  exact names entry.1 (by simpa using dropped) other found (congrArg Prod.fst same)

/-- The variables of an option name no other one. -/
theorem IsSwitch.eq_of_byEnvName_upgrade (isSwitch : IsSwitch table option flagTail nameTail)
    {name : String} (spelling : name ∈ Spelling.variableSpellings nameTail) {other : Entry}
    (found : table.byEnvName? (Spelling.upgrade name) = some other) : other = option := by
  rw [Spelling.upgrade_eq_variable_iff.mpr spelling, ← isSwitch.envName] at found
  have named := isSwitch.regular.byEnvName_eq_some_iff.mpr ⟨isSwitch.member, rfl⟩
  exact Option.some.inj (found.symm.trans named)

/-- What two environments that differ in the variables of one option give to any other one. -/
theorem lookup_environmentValues_of_withoutVariable
    (isSwitch : IsSwitch table option flagTail nameTail) {key : String} (differs : key ≠ option.key)
    {environment environment' : Environment}
    (same : withoutVariable nameTail environment = withoutVariable nameTail environment') :
    Dictionary.lookup? (environmentValues table environment) key =
      Dictionary.lookup? (environmentValues table environment') key := by
  have another {name : String} (spelling : name ∈ Spelling.variableSpellings nameTail)
      {other : Entry} (found : table.byEnvName? (Spelling.upgrade name) = some other) :
      other.key ≠ key := by
    rw [isSwitch.eq_of_byEnvName_upgrade spelling found]
    exact differs.symm
  have current (name : String) (spelling : name ∈ Spelling.variableSpellings nameTail)
      (other : Entry) (found : currentVariable? table name = some other) : other.key ≠ key :=
    another spelling (isSwitch.regular.byEnvName_upgrade found)
  have legacy (name : String) (spelling : name ∈ Spelling.variableSpellings nameTail)
      (other : Entry) (found : legacyVariable? table name = some other) : other.key ≠ key :=
    another spelling (byEnvName_of_legacyVariable found)
  rw [lookup_environmentValues_eq_or, lookup_environmentValues_eq_or,
    ← lookup_collect_withoutVariable current, ← lookup_collect_withoutVariable legacy, same,
    lookup_collect_withoutVariable current, lookup_collect_withoutVariable legacy]

/-- Command lines that differ in the arguments for one switch fail alike, or give the same to any
other option. -/
theorem commandLineValues_of_withoutFlag (isSwitch : IsSwitch table option flagTail nameTail)
    {arguments arguments' : List String}
    (same : withoutFlag flagTail arguments = withoutFlag flagTail arguments') :
    Except.Alike (fun values values' => ∀ key, key ≠ option.key →
        Dictionary.lookup? values key = Dictionary.lookup? values' key)
      (commandLineValues table (consumedArguments table arguments))
      (commandLineValues table (consumedArguments table arguments')) := by
  have refused : arguments.findSome? (refusal? table) = arguments'.findSome? (refusal? table) := by
    rw [← findSome?_refusal_withoutFlag isSwitch, same, findSome?_refusal_withoutFlag isSwitch]
  have faults (fault : Fault) :
      assign table [] arguments = .error fault ↔ assign table [] arguments' = .error fault := by
    rw [assign_eq_error_iff, assign_eq_error_iff, refused]
  rw [commandLineValues_consumed, commandLineValues_consumed]
  cases first : assign table [] arguments with
  | error fault =>
    rw [(faults fault).mp first]
    exact .error fault
  | ok values =>
    cases second : assign table [] arguments' with
    | error fault =>
      rw [(faults fault).mpr second] at first
      contradiction
    | ok values' =>
      refine .ok fun key differs => ?_
      obtain ⟨-, rfl⟩ := assign_eq_ok first
      obtain ⟨-, rfl⟩ := assign_eq_ok second
      rw [Dictionary.lookup_foldl_insert, Dictionary.lookup_foldl_insert,
        ← lookup_assigned_withoutFlag isSwitch differs, same,
        lookup_assigned_withoutFlag isSwitch differs]

theorem forwardedArguments_withoutFlag (isSwitch : IsSwitch table option flagTail nameTail)
    (arguments : List String) : forwardedArguments table (withoutFlag flagTail arguments) =
      forwardedArguments table arguments := by
  unfold forwardedArguments withoutFlag
  rw [List.filter_filter]
  apply List.filter_congr
  intro argument _
  by_cases named : (Spelling.cut argument).1 ∈ Spelling.flagSpellings flagTail
  · have driver := (recipient_eq_driver_iff isSwitch.regular.flagged).mpr
      ⟨option, isSwitch.member, isSwitch.namedBy named⟩
    simp [driver]
  · simp [named]

/-- Inputs that differ in what they say about one switch are resolved to settings that differ in that
switch only, or fail alike. -/
theorem resolve_of_sameBut (isSwitch : IsSwitch table option flagTail nameTail)
    {arguments arguments' : List String} {environment environment' : Environment}
    {defaults defaults' : Defaults} (same : SameBut flagTail nameTail option.configKey arguments
      arguments' environment environment' defaults defaults') :
    Except.Alike (AgreeOff option.key) (resolve table arguments environment defaults)
      (resolve table arguments' environment' defaults') := by
  unfold resolve
  refine (commandLineValues_of_withoutFlag isSwitch same.arguments).bind ?_
  intro commandLine commandLine' given
  refine .ok ⟨?_, fun key differs => ?_⟩
  · dsimp only
    rw [← forwardedArguments_withoutFlag isSwitch, same.arguments,
      forwardedArguments_withoutFlag isSwitch]
  · rw [entry_chooseAll isSwitch.regular.keys, entry_chooseAll isSwitch.regular.keys]
    cases found : table.find? key with
    | none => rfl
    | some other =>
      obtain ⟨member, rfl⟩ := isSwitch.regular.find?_eq_some_iff.mp found
      have configured := same.defaults _ (isSwitch.configKey other member differs)
      have set := lookup_environmentValues_of_withoutVariable isSwitch differs same.environment
      dsimp only
      rw [choose_congr (given _ differs) set configured]

/-- Such inputs name the same directories, if it is not these that the switch is about. -/
theorem configDirectories_of_withoutFlag (isSwitch : IsSwitch table option flagTail nameTail)
    (differs : directoryKey ≠ option.key) {arguments arguments' : List String}
    (sameArguments : withoutFlag flagTail arguments = withoutFlag flagTail arguments')
    {environment environment' : Environment}
    (sameEnvironment : withoutVariable nameTail environment = withoutVariable nameTail environment') :
    configDirectories table arguments environment = configDirectories table arguments' environment' := by
  unfold configDirectories
  cases table.find? directoryKey with
  | none => rfl
  | some option =>
    refine (commandLineValues_of_withoutFlag isSwitch sameArguments).bind_eq ?_
    intro commandLine commandLine' given
    rw [given _ differs,
      lookup_environmentValues_of_withoutVariable isSwitch differs sameEnvironment]

end Frame

end Offload.Settings
