import Offload.Proofs.Dictionary
import Offload.Proofs.Except
import Offload.Proofs.Options.Table
import Offload.Settings.Resolution

/-! # Settings by layers

`layered` says for one option, without dictionaries, where its value comes from: the last argument
that names its flag in any spelling, else its variable in the spelling that counts most, else its
configuration key, else its default. Resolution fills one dictionary for each source and takes the
values out again option by option; `resolve_eq_layered` says that over a regular table this comes to
the same. It asks for a sorted environment, which every dictionary made of pairs is
(`Dictionary.sorted_ofList`), because the order of the two legacy spellings is decided by it.
-/

namespace Offload.Settings

open Options

section Reference

/-- The value that an argument gives to the option it names. -/
def given (option : Entry) (argument : String) : Value :=
  match (Spelling.cut argument).2 with
  | some text => .ofText option text
  | none => .switch true

/-- The value from the last argument that names the flag with this ending. -/
def onCommandLine (option : Entry) (tail : String) (arguments : List String) : Option Value :=
  (arguments.filter fun argument =>
    (Spelling.cut argument).1 ∈ Spelling.flagSpellings tail).getLast?.map (given option)

/-- The value of the first spelling that is set of the variable with this ending. -/
def inEnvironment (tail : String) (environment : Environment) : Option String :=
  (Spelling.variableSpellings tail).findSome? (Dictionary.lookup? environment)

/-- The effective value of an option with these endings of its flag and its variable. -/
def layered (option : Entry) (flagTail nameTail : String) (arguments : List String)
    (environment : Environment) (defaults : Defaults) : Option Resolved :=
  ((onCommandLine option flagTail arguments).map fun value => ⟨value, .commandLine⟩).or <|
  ((inEnvironment nameTail environment).map fun text => ⟨.ofText option text, .environment⟩).or <|
  ((defaults.lookup? option.configKey).map fun text => ⟨.ofText option text, .configFile⟩).or <|
  option.default?.map fun text => ⟨.ofText option text, .builtin⟩

end Reference

section CommandLine

variable {table : Table}

/-- The key and the value that an argument gives, if it names an option. -/
def assigned (table : Table) (argument : String) : Option (String × Value) :=
  match assignment? table argument with
  | .ok (some (option, value)) => some (option.key, value)
  | _ => none

/-- Arguments that are not refused assign their values in order. -/
theorem assign_eq_ok {values result : Dictionary Value} {arguments : List String}
    (done : assign table values arguments = .ok result) :
    (∀ argument ∈ arguments, ∃ accepted, assignment? table argument = .ok accepted) ∧
      result = (arguments.filterMap (assigned table)).foldl
        (fun entries (key, value) => Dictionary.insert key value entries) values := by
  induction arguments generalizing values with
  | nil => exact ⟨fun _ member => absurd member List.not_mem_nil, (Except.ok.inj done).symm⟩
  | cons argument rest ih =>
    unfold assign at done
    rw [List.filterMap_cons]
    cases means : assignment? table argument with
    | error fault => rw [means] at done; contradiction
    | ok accepted =>
      rw [means] at done
      unfold assigned
      rw [means]
      cases accepted with
      | none =>
        obtain ⟨others, same⟩ := ih done
        exact ⟨List.forall_mem_cons.mpr ⟨⟨_, means⟩, others⟩, same⟩
      | some gift =>
        obtain ⟨others, same⟩ := ih done
        exact ⟨List.forall_mem_cons.mpr ⟨⟨_, means⟩, others⟩, same⟩

/-- Arguments for the compiler assign nothing, so leaving them out changes nothing. -/
theorem assign_consumed (values : Dictionary Value) (arguments : List String) :
    assign table values (consumedArguments table arguments) = assign table values arguments := by
  induction arguments generalizing values with
  | nil => rfl
  | cons argument rest ih =>
    unfold consumedArguments at ih ⊢
    by_cases driver : recipient table argument = .driver
    · rw [List.filter_cons_of_pos (by simp [driver]), assign, assign]
      simp only [ih]
    · have unnamed : table.byFlag? (Spelling.cut (Spelling.upgrade argument)).1 = none := by
        unfold recipient optionNamed? at driver
        by_contra named
        exact driver (if_pos (by simp [Option.isSome_iff_ne_none.mpr named]))
      have nothing : assignment? table argument = .ok none := by
        unfold assignment?
        simp only [unnamed]
      rw [List.filter_cons_of_neg (by simpa using driver), ih, assign, nothing]

theorem commandLineValues_consumed (arguments : List String) :
    commandLineValues table (consumedArguments table arguments) = assign table [] arguments :=
  assign_consumed [] arguments

variable {option : Entry} {tail : String}

/-- An argument that is not refused gives its value to the option that it names once upgraded. -/
theorem eq_of_assignment {argument : String} {gift : Option (Entry × Value)}
    (accepted : assignment? table argument = .ok gift) :
    gift = (table.byFlag? (Spelling.upgrade (Spelling.cut argument).1)).map
      fun option => (option, given option argument) := by
  unfold assignment? at accepted
  unfold given
  rw [Spelling.cut_upgrade] at accepted
  simp only at accepted
  cases found : table.byFlag? (Spelling.upgrade (Spelling.cut argument).1) with
  | none =>
    rw [found] at accepted
    exact (Except.ok.inj accepted).symm
  | some option =>
    rw [found] at accepted
    cases text : (Spelling.cut argument).2 with
    | some text =>
      simp only [text] at accepted
      exact (Except.ok.inj accepted).symm
    | none =>
      simp only [text] at accepted
      split at accepted
      · exact (Except.ok.inj accepted).symm
      · contradiction

/-- An argument that is not refused gives a value to an option exactly if it names its flag. -/
theorem assigned_eq_some_iff (regular : table.Regular) (member : option ∈ table)
    (spelled : option.flag = "--acpp-" ++ tail) {argument : String}
    (accepted : ∃ gift, assignment? table argument = .ok gift) (value : Value) :
    assigned table argument = some (option.key, value) ↔
      (Spelling.cut argument).1 ∈ Spelling.flagSpellings tail ∧ value = given option argument := by
  have names : table.byFlag? (Spelling.upgrade (Spelling.cut argument).1) = some option ↔
      (Spelling.cut argument).1 ∈ Spelling.flagSpellings tail := by
    rw [regular.byFlag_eq_some_iff, spelled, ← Spelling.upgrade_eq_flag_iff, eq_comm]
    exact and_iff_right member
  obtain ⟨gift, means⟩ := accepted
  have gives := eq_of_assignment means
  unfold assigned
  rw [means, ← names]
  cases found : table.byFlag? (Spelling.upgrade (Spelling.cut argument).1) with
  | none =>
    rw [found] at gives
    subst gives
    simp
  | some other =>
    rw [found] at gives
    subst gives
    have present := (regular.byFlag_eq_some_iff.mp found).1
    simp only [Option.map_some, Option.some.injEq, Prod.mk.injEq]
    constructor
    · rintro ⟨sameKey, rfl⟩
      obtain rfl := regular.eq_of_key member present sameKey
      exact ⟨rfl, rfl⟩
    · rintro ⟨rfl, rfl⟩
      exact ⟨rfl, rfl⟩

/-- What the command line gives to an option is the value of the last argument that names it. -/
theorem lookup_commandLineValues (regular : table.Regular) (member : option ∈ table)
    (spelled : option.flag = "--acpp-" ++ tail) {arguments : List String}
    {values : Dictionary Value}
    (done : commandLineValues table (consumedArguments table arguments) = .ok values) :
    values.lookup? option.key = onCommandLine option tail arguments := by
  rw [commandLineValues_consumed] at done
  obtain ⟨accepted, rfl⟩ := assign_eq_ok done
  rw [Dictionary.lookup_foldl_insert, Dictionary.lookup_nil, Option.or_none, onCommandLine]
  apply Dictionary.lookup_reverse_filterMap
  intro argument inside value
  rw [assigned_eq_some_iff regular member spelled (accepted argument inside), decide_eq_true_iff]

end CommandLine

section Environment

variable {table : Table} {option : Entry} {environment : Environment}

theorem collect_eq_foldl (named? : String → Option Entry) (environment : Environment) :
    collect named? environment =
      (environment.filterMap fun entry => (named? entry.1).map (·.key, entry.2)).foldl
        (fun entries (key, value) => Dictionary.insert key value entries) [] := by
  rw [List.foldl_filterMap]
  unfold collect
  congr 1
  funext values entry
  obtain ⟨name, value⟩ := entry
  dsimp only
  cases named? name <;> rfl

/-- Of two names under which variables are collected for an option the later one counts. -/
theorem lookup_collect (regular : table.Regular) (member : option ∈ table)
    {named? : String → Option Entry} (inTable : ∀ name other, named? name = some other → other ∈ table)
    {newer older : String} (order : older ≤ newer)
    (names : ∀ name, named? name = some option ↔ name = newer ∨ name = older)
    (sorted : environment.Sorted) : Dictionary.lookup? (collect named? environment) option.key =
      (Dictionary.lookup? environment newer).or (Dictionary.lookup? environment older) := by
  rw [collect_eq_foldl, Dictionary.lookup_foldl_insert, Dictionary.lookup_nil, Option.or_none,
    ← sorted.getLast?_filter order]
  apply Dictionary.lookup_reverse_filterMap
  intro entry _ value
  rw [Option.map_eq_some_iff]
  constructor
  · rintro ⟨other, found, same⟩
    obtain ⟨sameKey, rfl⟩ := Prod.mk.inj same
    obtain rfl := regular.eq_of_key member (inTable _ _ found) sameKey
    exact ⟨by simpa using (names entry.1).mp found, rfl⟩
  · rintro ⟨name, rfl⟩
    exact ⟨option, (names entry.1).mpr (by simpa using name), rfl⟩

theorem byEnvName_of_legacyVariable {name : String}
    (found : legacyVariable? table name = some option) :
    table.byEnvName? (Spelling.upgrade name) = some option := by
  unfold legacyVariable? at found
  split at found
  · contradiction
  · exact found

/-- The legacy spellings of a variable name its option, and nothing else does once the current ones
are told apart. -/
theorem legacyVariable_eq_some_iff (regular : table.Regular) (member : option ∈ table) {tail : String}
    (spelled : option.envName = "ACPP_" ++ tail) (name : String) :
    legacyVariable? table name = some option ↔
      name = "OPENSYCL_" ++ tail ∨ name = "HIPSYCL_" ++ tail := by
  have upgraded : table.byEnvName? (Spelling.upgrade name) = some option ↔
      name ∈ Spelling.variableSpellings tail := by
    rw [regular.byEnvName_eq_some_iff, spelled, ← Spelling.upgrade_eq_variable_iff, eq_comm]
    exact and_iff_right member
  unfold legacyVariable?
  constructor
  · intro found
    split at found
    · contradiction
    · rename_i unknown
      rcases List.mem_cons.mp (upgraded.mp found) with current | legacy
      · have named := regular.byEnvName_eq_some_iff.mpr ⟨member, spelled.trans current.symm⟩
        rw [named] at unknown
        exact absurd rfl unknown
      · simpa using legacy
  · intro legacy
    have unknown : table.byEnvName? name = none := by
      apply regular.byEnvName_eq_none
      rcases legacy with rfl | rfl <;> simp
    rw [unknown]
    exact upgraded.mpr (List.mem_cons_of_mem _ (by simpa using legacy))

theorem sorted_collect (named? : String → Option Entry) (environment : Environment) :
    (collect named? environment).Sorted := by
  rw [collect_eq_foldl]
  exact Dictionary.sorted_ofList _

/-- Current variables count before legacy ones. -/
theorem lookup_environmentValues_eq_or (key : String) :
    Dictionary.lookup? (environmentValues table environment) key =
      (Dictionary.lookup? (collect (currentVariable? table) environment) key).or
        (Dictionary.lookup? (collect (legacyVariable? table) environment) key) := by
  unfold environmentValues
  rw [Dictionary.lookup_foldl_insert, (sorted_collect _ _).lookup_reverse]

/-- What the environment gives to an option is the value of the spelling that counts most. -/
theorem lookup_environmentValues (regular : table.Regular) (member : option ∈ table) {tail : String}
    (spelled : option.envName = "ACPP_" ++ tail) (sorted : environment.Sorted) :
    Dictionary.lookup? (environmentValues table environment) option.key =
      inEnvironment tail environment := by
  have current : Dictionary.lookup? (collect (currentVariable? table) environment) option.key =
      Dictionary.lookup? environment ("ACPP_" ++ tail) := by
    have inTable (name : String) (other : Entry) (found : currentVariable? table name = some other) :
        other ∈ table :=
      (regular.byEnvName_eq_some_iff.mp found).1
    have names (name : String) : currentVariable? table name = some option ↔
        name = "ACPP_" ++ tail ∨ name = "ACPP_" ++ tail := by
      rw [currentVariable?, regular.byEnvName_eq_some_iff, spelled, or_self, eq_comm]
      exact and_iff_right member
    rw [lookup_collect regular member inTable (String.le_refl _) names sorted, Option.or_self]
  have legacy : Dictionary.lookup? (collect (legacyVariable? table) environment) option.key =
      (Dictionary.lookup? environment ("OPENSYCL_" ++ tail)).or
        (Dictionary.lookup? environment ("HIPSYCL_" ++ tail)) := by
    refine lookup_collect regular member (fun name other found => ?_)
      (Spelling.hipsycl_le_opensycl tail) (legacyVariable_eq_some_iff regular member spelled) sorted
    exact (regular.byEnvName_eq_some_iff.mp (byEnvName_of_legacyVariable found)).1
  unfold inEnvironment
  rw [lookup_environmentValues_eq_or, current, legacy]
  simp only [Spelling.variableSpellings, List.findSome?_cons, List.findSome?_nil]
  cases Dictionary.lookup? environment ("ACPP_" ++ tail) with
  | some text => rfl
  | none => cases Dictionary.lookup? environment ("OPENSYCL_" ++ tail) <;>
      cases Dictionary.lookup? environment ("HIPSYCL_" ++ tail) <;> rfl

end Environment

section Resolution

variable {table : Table} {commandLine : Dictionary Value} {environment : Dictionary String}
  {defaults : Defaults}

/-- What is chosen for an option is read from its own key in each source. -/
theorem choose_congr {option : Entry} {commandLine commandLine' : Dictionary Value}
    {environment environment' : Dictionary String} {defaults defaults' : Defaults}
    (given : commandLine.lookup? option.key = commandLine'.lookup? option.key)
    (set : environment.lookup? option.key = environment'.lookup? option.key)
    (configured : defaults.lookup? option.configKey = defaults'.lookup? option.configKey) :
    choose option commandLine environment defaults =
      choose option commandLine' environment' defaults' := by
  simp only [choose, given, set, configured]

/-- Values taken out for one key leave the choice for every other key alone. -/
theorem choose_erase {option : Entry} {key : String} (other : option.key ≠ key) :
    choose option (commandLine.erase key) environment defaults =
        choose option commandLine environment defaults ∧
      choose option commandLine (environment.erase key) defaults =
        choose option commandLine environment defaults := by
  have kept {α : Type} (values : Dictionary α) :
      (values.erase key).lookup? option.key = values.lookup? option.key := by
    rw [Dictionary.lookup_erase, if_neg other]
  exact ⟨choose_congr (kept _) rfl rfl, choose_congr rfl (kept _) rfl⟩

/-- Where no two options share a key, each one gets what its sources hold. -/
theorem chooseAll_eq_map (distinct : (table.map (·.key)).Nodup) :
    chooseAll commandLine environment defaults table =
      table.map fun option => ⟨option, choose option commandLine environment defaults⟩ := by
  induction table generalizing commandLine environment with
  | nil => rfl
  | cons option rest ih =>
    obtain ⟨fresh, later⟩ := List.nodup_cons.mp distinct
    have other {next : Entry} (member : next ∈ rest) : next.key ≠ option.key :=
      fun same => fresh (List.mem_map.mpr ⟨next, member, same⟩)
    rw [chooseAll, ih later, ih later, List.map_cons]
    split
    · exact congrArg _ (List.map_congr_left fun next member => by
        rw [(choose_erase (other member)).1])
    · exact congrArg _ (List.map_congr_left fun next member => by
        rw [(choose_erase (other member)).2])

/-- Where no two options share a key, a key is looked up in the table, and its option gets what its
sources hold. -/
theorem entry_chooseAll (distinct : (table.map (·.key)).Nodup) (consumed forwarded : List String)
    (key : String) :
    entry ⟨chooseAll commandLine environment defaults table, consumed, forwarded⟩ key =
      match table.find? key with
      | some option => .ok ⟨option, choose option commandLine environment defaults⟩
      | none => .error (.unknownOption key) := by
  unfold entry Table.find?
  simp only [chooseAll_eq_map distinct, List.find?_map, Function.comp_def]
  cases List.find? (·.key == key) table <;> rfl

/-- What is looked up in settings that resolution succeeded with. -/
theorem entry_of_resolve (distinct : (table.map (·.key)).Nodup) {arguments : List String}
    {environment : Environment} {settings : Settings}
    (resolved : resolve table arguments environment defaults = .ok settings) :
    ∃ commandLine, commandLineValues table (consumedArguments table arguments) = .ok commandLine ∧
      ∀ key, settings.entry key =
        match table.find? key with
        | some option =>
          .ok ⟨option, choose option commandLine (environmentValues table environment) defaults⟩
        | none => .error (.unknownOption key) := by
  unfold resolve at resolved
  obtain ⟨commandLine, given, done⟩ := Except.bind_eq_ok_iff.mp resolved
  obtain rfl := Except.ok.inj done
  exact ⟨commandLine, given, entry_chooseAll distinct _ _⟩

/-- Over a regular table every option is resolved layer by layer, in the order of the table. -/
theorem resolve_eq_layered (regular : table.Regular) {arguments : List String}
    {environment : Environment} {settings : Settings} (sorted : environment.Sorted)
    (resolved : resolve table arguments environment defaults = .ok settings) :
    settings.list.map (·.option) = table ∧
      ∀ setting ∈ settings.list, ∃ flagTail nameTail,
        setting.option.flag = "--acpp-" ++ flagTail ∧ setting.option.envName = "ACPP_" ++ nameTail ∧
          setting.resolved? =
            layered setting.option flagTail nameTail arguments environment defaults := by
  unfold resolve at resolved
  obtain ⟨commandLine, given, done⟩ := Except.bind_eq_ok_iff.mp resolved
  obtain rfl := Except.ok.inj done
  simp only [chooseAll_eq_map regular.keys]
  constructor
  · rw [List.map_map]
    exact List.map_id table
  · intro setting inside
    obtain ⟨option, member, rfl⟩ := List.mem_map.mp inside
    obtain ⟨flagTail, flag⟩ := regular.exists_flag member
    obtain ⟨nameTail, name⟩ := regular.exists_envName member
    refine ⟨flagTail, nameTail, flag, name, ?_⟩
    unfold choose layered
    rw [lookup_commandLineValues regular member flag given,
      lookup_environmentValues regular member name sorted]
    cases onCommandLine option flagTail arguments with
    | some value => rfl
    | none =>
      cases inEnvironment nameTail environment with
      | some text => rfl
      | none => cases defaults.lookup? option.configKey <;> rfl

theorem resolve_eq_layered_builtin : ∃ settings,
    resolve Table.builtin ["--acpp-clang=/a", "main.cpp", "--hipsycl-clang=/b"]
      [("HIPSYCL_TARGETS", "cuda"), ("OPENSYCL_TARGETS", "omp")] Defaults.empty = .ok settings ∧
    settings.list.map (·.option) = Table.builtin ∧
    ∀ setting ∈ settings.list,
      (setting.option = Builtin.clang → setting.resolved? = some ⟨.text "/b", .commandLine⟩) ∧
      (setting.option = Builtin.targets → setting.resolved? = some ⟨.text "omp", .environment⟩) := by
  have sorted : Dictionary.Sorted [("HIPSYCL_TARGETS", "cuda"), ("OPENSYCL_TARGETS", "omp")] := by
    unfold Dictionary.Sorted
    decide
  have resolved : resolve Table.builtin ["--acpp-clang=/a", "main.cpp", "--hipsycl-clang=/b"]
      [("HIPSYCL_TARGETS", "cuda"), ("OPENSYCL_TARGETS", "omp")] Defaults.empty = .ok _ := rfl
  obtain ⟨options, each⟩ := resolve_eq_layered Table.regular_builtin sorted resolved
  refine ⟨_, resolved, options, ?_⟩
  intro setting member
  obtain ⟨flagTail, nameTail, flag, name, value⟩ := each setting member
  constructor
  · intro isClang
    rw [isClang] at flag name value
    obtain rfl : "clang" = flagTail := (String.append_right_inj "--acpp-").mp flag
    obtain rfl : "CLANG" = nameTail := (String.append_right_inj "ACPP_").mp name
    rw [value]
    rfl
  · intro isTargets
    rw [isTargets] at flag name value
    obtain rfl : "targets" = flagTail := (String.append_right_inj "--acpp-").mp flag
    obtain rfl : "TARGETS" = nameTail := (String.append_right_inj "ACPP_").mp name
    rw [value]
    rfl

end Resolution

end Offload.Settings
