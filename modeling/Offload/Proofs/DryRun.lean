import Offload.Proofs.Consulted
import Offload.Proofs.Except

/-! # Dry runs

Whether an invocation is a dry run is told by a switch, and by nothing else that is planned from. So
inputs that differ in what they say about this switch take the same course: they fail at the same stage
with the same fault, or come to the same targets, decision and command (`outcome_of_sameBut_dryrun`).
`prepare_result` joins these stages to what an invocation prepares, and `compile_of_sameBut_dryrun` says
it of whole invocations: a dry run displays the command that is executed otherwise.
-/

namespace Offload.Invocation

open Options Settings

/-- The stages from the arguments to the command. -/
inductive Stage where
  | resolution
  | choice
  | listing
  | decision
  | planning
deriving DecidableEq, Repr

/-- What the stages come to. -/
structure Outcome where
  /-- The list of targets in effect. -/
  given : String
  platformWarning? : Option String
  targets : List Target
  decision : Target.Decision
  command : Command
deriving DecidableEq, Repr

/-- Work at a stage, which fails as work at this stage. -/
def Stage.work {α : Type} (stage : Stage) (found : Except Target.Fault α) :
    Except (Stage × Target.Fault) α :=
  found.mapError (stage, ·)

/-- The stages after resolution. -/
def planned (settings : Settings) : Except (Stage × Target.Fault) Outcome := do
  let (given, platformWarning?) ← Stage.choice.work (Target.effective settings)
  let targets ← Stage.listing.work (Target.parse given)
  let decision ← Stage.decision.work (Target.decide settings targets)
  let command ← Stage.planning.work (Command.plan settings decision)
  return ⟨given, platformWarning?, targets, decision, command⟩

/-- All stages, up to the first that fails. -/
def outcome (arguments : List String) (environment : Environment) (defaults : Defaults) :
    Except (Stage × Target.Fault) Outcome := do
  let settings ← Stage.resolution.work
    (Target.ofSettings (resolve Table.builtin arguments environment defaults))
  planned settings

/-- What is prepared is what the stages come to. -/
theorem prepare_result (settings : Settings) : (prepare settings).result =
    ((fun outcome => (outcome.decision, outcome.command)) <$> planned settings).mapError
      (.target ·.2) := by
  unfold prepare planned Stage.work targeted Course.quietly
  simp only [Course.bind_result, map_bind, Except.mapError_bind, Except.mapError_mapError,
    Function.comp_def]
  rfl

theorem isSwitch_dryrun : IsSwitch Table.builtin Builtin.isDryrun "dryrun" "DRYRUN" where
  regular := Table.regular_builtin
  member := by simp [Table.builtin]
  switch := rfl
  flag := by decide
  envName := by decide
  configKey := by decide +kernel

section Dryrun

variable {settings settings' : Settings}

theorem planned_congr (agree : AgreeOn consulted settings settings') :
    planned settings = planned settings' := by
  simp only [planned, Target.effective_congr agree, Target.decide_congr agree, Command.plan_congr agree]

theorem agreeOn_consulted (agree : AgreeOff Builtin.isDryrun.key settings settings') :
    AgreeOn consulted settings settings' :=
  agree.agreeOn (by decide)

/-- Inputs that differ in what they say about the dry run fail at the same stage with the same fault, or
come to the same targets, decision and command, with the same warnings on the way. -/
theorem outcome_of_sameBut_dryrun {arguments arguments' : List String}
    {environment environment' : Environment} {defaults defaults' : Defaults}
    (same : SameBut "dryrun" "DRYRUN" "default-is-dryrun" arguments arguments' environment
      environment' defaults defaults') :
    outcome arguments environment defaults = outcome arguments' environment' defaults' ∧
      ∀ settings settings', resolve Table.builtin arguments environment defaults = .ok settings →
        resolve Table.builtin arguments' environment' defaults' = .ok settings' →
          prepare settings = prepare settings' := by
  have resolved := resolve_of_sameBut isSwitch_dryrun same
  constructor
  · unfold outcome
    refine ((resolved.mapError Target.Fault.settings).mapError (Stage.resolution, ·)).bind_eq ?_
    intro settings settings' agree
    exact planned_congr (agreeOn_consulted agree)
  · intro settings settings' first second
    rw [first, second] at resolved
    cases resolved with
    | ok agree => exact prepare_congr (agreeOn_consulted agree)

/-- A dry run that is asked for in a variable and denied by a later argument, as against one that is
configured only. -/
theorem outcome_of_sameBut_dryrun_denied :
    SameBut "dryrun" "DRYRUN" "default-is-dryrun"
        ["--acpp-targets=omp", "--acpp-cpu-cxx=g++", "a.cpp"]
        ["--acpp-targets=omp", "--acpp-dryrun", "--acpp-cpu-cxx=g++", "a.cpp", "--hipsycl-dryrun=0"]
        [] [("OPENSYCL_DRYRUN", "on")] (Defaults.ofPairs [("default-is-dryrun", "true")])
        Defaults.empty ∧
      ∃ result, outcome ["--acpp-targets=omp", "--acpp-cpu-cxx=g++", "a.cpp"] []
          (Defaults.ofPairs [("default-is-dryrun", "true")]) = .ok result ∧
        result.command = ⟨"g++", ["a.cpp"]⟩ ∧
        outcome ["--acpp-targets=omp", "--acpp-dryrun", "--acpp-cpu-cxx=g++", "a.cpp",
          "--hipsycl-dryrun=0"] [("OPENSYCL_DRYRUN", "on")] Defaults.empty = .ok result := by
  have same : SameBut "dryrun" "DRYRUN" "default-is-dryrun"
      ["--acpp-targets=omp", "--acpp-cpu-cxx=g++", "a.cpp"]
      ["--acpp-targets=omp", "--acpp-dryrun", "--acpp-cpu-cxx=g++", "a.cpp", "--hipsycl-dryrun=0"]
      [] [("OPENSYCL_DRYRUN", "on")] (Defaults.ofPairs [("default-is-dryrun", "true")])
      Defaults.empty := by
    refine ⟨by decide, by decide, fun key differs => ?_⟩
    simp [Defaults.lookup?, Defaults.ofPairs, Defaults.empty, Dictionary.ofList, Dictionary.insert,
      Dictionary.lookup_cons, differs.symm]
  obtain ⟨result, planned, command⟩ : ∃ result,
      outcome ["--acpp-targets=omp", "--acpp-cpu-cxx=g++", "a.cpp"] []
        (Defaults.ofPairs [("default-is-dryrun", "true")]) = .ok result ∧
      result.command = ⟨"g++", ["a.cpp"]⟩ := ⟨_, rfl, rfl⟩
  exact ⟨same, result, planned, command, (outcome_of_sameBut_dryrun same).1.symm.trans planned⟩

section Compile

variable {dry real : Invocation}

/-- What a dry run makes of a conclusion: the command is displayed in place of its execution. -/
def displayed : Conclusion → Course Fault Conclusion
  | .execute command => do
    Course.write (command.display ++ "\n")
    return .done 0
  | .done code => return .done code

/-- The switch does not choose the configuration files, so these are the same too. -/
theorem settings_of_sameBut_dryrun (files : dry.files = real.files)
    (arguments : withoutFlag "dryrun" dry.arguments = withoutFlag "dryrun" real.arguments)
    (environment : withoutVariable "DRYRUN" dry.environment =
      withoutVariable "DRYRUN" real.environment) :
    Except.Alike (AgreeOff Builtin.isDryrun.key) dry.settings real.settings := by
  have differs : directoryKey ≠ Builtin.isDryrun.key := by decide
  unfold settings directories
  rw [configDirectories_of_withoutFlag isSwitch_dryrun differs arguments environment, files]
  refine (Except.Alike.refl _).bind ?_
  rintro directories _ rfl
  refine (Except.Alike.refl _).bind ?_
  rintro defaults _ rfl
  exact resolve_of_sameBut isSwitch_dryrun ⟨arguments, environment, fun _ _ => rfl⟩

/-- A dry run displays the command that is executed otherwise, after the same warnings, and fails where
the other run fails. -/
theorem compile_of_sameBut_dryrun (files : dry.files = real.files)
    (arguments : withoutFlag "dryrun" dry.arguments = withoutFlag "dryrun" real.arguments)
    (environment : withoutVariable "DRYRUN" dry.environment =
      withoutVariable "DRYRUN" real.environment)
    (on : ∀ settings, dry.settings = .ok settings →
      settings.isOn? Builtin.isDryrun.key = .ok true)
    (off : ∀ settings, real.settings = .ok settings →
      settings.isOn? Builtin.isDryrun.key = .ok false) :
    dry.compile = real.compile >>= displayed := by
  have resolved := settings_of_sameBut_dryrun files arguments environment
  unfold compile
  generalize dry.settings = first, real.settings = second at resolved on off ⊢
  cases resolved with
  | error fault => rfl
  | ok agree =>
    -- The courses are the same up to the switch, which the last step asks for.
    have prepared := prepare_congr (agreeOn_consulted agree)
    simp only [settled, Except.mapError, Course.quietly_bind, prepared, on _ rfl, off _ rfl,
      bind_assoc]
    rfl

end Compile

end Dryrun

end Offload.Invocation
