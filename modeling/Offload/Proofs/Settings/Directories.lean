import Offload.Proofs.Settings.Kinds

/-! # Where configuration files are looked for

The directory of the configuration files is found before they are read, and reported after. Both
passes read the same arguments and variables, so they fail together, with the first argument that
lacks a value (`commandLineValues_eq_error_iff`), and they agree on the directory unless a
configuration file names another one, which has no say.
-/

namespace Offload.Settings

open Options

section Directories

variable {arguments : List String} {environment : Environment} {defaults : Defaults}

theorem resolve_eq_error_iff {table : Table} {fault : Fault} :
    resolve table arguments environment defaults = .error fault ↔
      commandLineValues table (consumedArguments table arguments) = .error fault := by
  unfold resolve
  rw [Except.bind_eq_error_iff]
  exact or_iff_left fun ⟨_, _, absurdity⟩ => nomatch absurdity

/-- The directory that the command line or the environment gives, or else the standard one. -/
def chosenDirectory (commandLine : Dictionary Value) (environment : Dictionary String) : String :=
  match commandLine.lookup? directoryKey with
  | some value => value.display
  | none => (environment.lookup? directoryKey).getD Defaults.standardDirectory

theorem find?_directoryKey : Table.builtin.find? directoryKey = some Builtin.configFileDir :=
  Table.regular_builtin.find?_eq_some_iff.mpr ⟨by simp [Table.builtin], rfl⟩

theorem configDirectories_builtin :
    configDirectories Table.builtin arguments environment =
      (commandLineValues Table.builtin (consumedArguments Table.builtin arguments)).map
        fun commandLine =>
          [chosenDirectory commandLine (environmentValues Table.builtin environment)] := by
  unfold configDirectories chosenDirectory
  rw [find?_directoryKey]
  cases commandLineValues Table.builtin (consumedArguments Table.builtin arguments) with
  | error fault => rfl
  | ok commandLine =>
    simp only [bind, Except.bind, Except.map, pure, Except.pure]
    cases commandLine.lookup? directoryKey with
    | some value => rfl
    | none =>
      cases Dictionary.lookup? (environmentValues Table.builtin environment) directoryKey <;> rfl

/-- The directory is resolved to what was chosen for it, or nothing was chosen and no source but a
configuration file counts. -/
theorem choose_configFileDir {commandLine : Dictionary Value} {environment : Dictionary String}
    (texts : ∀ value, commandLine.lookup? directoryKey = some value → ∃ text, value = .text text) :
    (∃ source, (source = .commandLine ∨ source = .environment) ∧
      choose Builtin.configFileDir commandLine environment defaults =
        some ⟨.text (chosenDirectory commandLine environment), source⟩) ∨
    chosenDirectory commandLine environment = Defaults.standardDirectory ∧
      ∀ resolved ∈ choose Builtin.configFileDir commandLine environment defaults,
        resolved.source = .configFile := by
  have key : Builtin.configFileDir.key = directoryKey := rfl
  unfold choose chosenDirectory
  rw [key]
  cases onLine : commandLine.lookup? directoryKey with
  | some value =>
    obtain ⟨text, rfl⟩ := texts value onLine
    exact .inl ⟨.commandLine, .inl rfl, rfl⟩
  | none =>
    cases inEnvironment : environment.lookup? directoryKey with
    | some text => exact .inl ⟨.environment, .inr rfl, rfl⟩
    | none =>
      refine .inr ⟨rfl, ?_⟩
      intro resolved chosen
      cases inFile : defaults.lookup? Builtin.configFileDir.configKey with
      | some text =>
        rw [inFile] at chosen
        obtain rfl := Option.some.inj chosen
        rfl
      | none =>
        rw [inFile] at chosen
        contradiction

/-- The directories of the configuration files are found exactly if the settings are resolved, and both
fail with the first argument that lacks a value. The one directory that is found is the one reported
where that comes from the command line or the environment, and else the standard one. -/
theorem configDirectories_agree (arguments : List String) (environment : Environment)
    (defaults : Defaults) :
    (∀ fault, configDirectories Table.builtin arguments environment = .error fault ↔
      resolve Table.builtin arguments environment defaults = .error fault) ∧
    (∀ fault, resolve Table.builtin arguments environment defaults = .error fault ↔
      ∃ front argument back, arguments = front ++ argument :: back ∧
        (∀ earlier ∈ front, ∀ option ∈ Table.builtin, ¬ LacksValue option earlier) ∧
        ∃ option ∈ Table.builtin, LacksValue option argument ∧
          fault = .missingValue option.flag) ∧
    ∀ directories settings,
      configDirectories Table.builtin arguments environment = .ok directories →
      resolve Table.builtin arguments environment defaults = .ok settings →
      ∃ directory source?, directories = [directory] ∧
        settings.source? "config-file-dir" = .ok source? ∧
        if source? = some .commandLine ∨ source? = some .environment then
          settings.value "config-file-dir" = .ok directory
        else directory = "/etc/AdaptiveCpp" := by
  refine ⟨fun fault => ?_, fun fault => ?_, fun directories settings found resolved => ?_⟩
  · rw [configDirectories_builtin, resolve_eq_error_iff]
    cases commandLineValues Table.builtin (consumedArguments Table.builtin arguments) with
    | error other => simp [Except.map]
    | ok commandLine => simp [Except.map]
  · rw [resolve_eq_error_iff, commandLineValues_eq_error_iff Table.regular_builtin.flagged]
  · obtain ⟨commandLine, given, entries⟩ := entry_of_resolve Table.regular_builtin.keys resolved
    rw [configDirectories_builtin, given] at found
    obtain rfl := Except.ok.inj found
    have entry : settings.entry directoryKey = .ok ⟨Builtin.configFileDir,
        choose Builtin.configFileDir commandLine (environmentValues Table.builtin environment)
          defaults⟩ := by
      rw [entries, find?_directoryKey]
    have choice := @choose_configFileDir defaults commandLine
      (environmentValues Table.builtin environment) fun value =>
        exists_text_of_lookup Table.regular_builtin
          (Table.regular_builtin.find?_eq_some_iff.mp find?_directoryKey).1 rfl given
    generalize choose Builtin.configFileDir _ _ _ = resolved? at entry choice
    refine ⟨_, _, rfl, source?_of_entry entry, ?_⟩
    rcases choice with ⟨source, counts, rfl⟩ | ⟨standard, others⟩
    · rw [Option.map_some, if_pos (counts.imp (congrArg some) (congrArg some))]
      exact value_of_entry entry
    · have other (source : Source) (found : resolved?.map (·.source) = some source) :
          source = .configFile := by
        obtain ⟨resolved, chosen, rfl⟩ := Option.map_eq_some_iff.mp found
        exact others resolved chosen
      have neither : ¬ (resolved?.map (·.source) = some .commandLine ∨
          resolved?.map (·.source) = some .environment) := by
        rintro (found | found)
        · exact absurd (other _ found) (by decide)
        · exact absurd (other _ found) (by decide)
      rw [if_neg neither]
      exact standard

/-- A legacy variable names the directory, and a configuration file another one. -/
theorem configDirectories_agree_legacyVariable : ∃ settings,
    configDirectories Table.builtin ["-c"] [("HIPSYCL_CONFIG_FILE_DIR", "/opt")] = .ok ["/opt"] ∧
    resolve Table.builtin ["-c"] [("HIPSYCL_CONFIG_FILE_DIR", "/opt")]
      (.ofPairs [("default-config-file-dir", "/usr")]) = .ok settings ∧
    settings.value "config-file-dir" = .ok "/opt" := by
  have found : configDirectories Table.builtin ["-c"] [("HIPSYCL_CONFIG_FILE_DIR", "/opt")] =
      .ok ["/opt"] := rfl
  have resolved : resolve Table.builtin ["-c"] [("HIPSYCL_CONFIG_FILE_DIR", "/opt")]
      (.ofPairs [("default-config-file-dir", "/usr")]) = .ok _ := rfl
  obtain ⟨-, -, agree⟩ := configDirectories_agree ["-c"] [("HIPSYCL_CONFIG_FILE_DIR", "/opt")]
    (.ofPairs [("default-config-file-dir", "/usr")])
  obtain ⟨directory, source?, same, source, counts⟩ := agree _ _ found resolved
  obtain rfl := List.singleton_inj.mp same
  obtain rfl : some Source.environment = source? := Except.ok.inj source
  rw [if_pos (.inr rfl)] at counts
  exact ⟨_, found, resolved, counts⟩

end Directories

end Offload.Settings
