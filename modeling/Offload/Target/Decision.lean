import Offload.Target.Variant

/-! # Deciding on targets

One invocation runs its device code in one mode and its host code through one compiler. The mode is
explicit if the settings say so, and also if HIP and CUDA are both asked for, since clang has one
language for each in a single pass. A target that insists on the other mode is overruled with a
warning. The compiler is the most strongly wanted one; of equals the first.
-/

namespace Offload.Target

open Options

/-- What was decided for one invocation. -/
structure Decision where
  /-- The targets as they were asked for. -/
  targets : List Target
  /-- What each target comes to, in the same order. -/
  variants : List Variant
  multipass : Multipass
  /-- The executable that compiles the host code. -/
  hostCompiler : String
  /-- What the user is told, in order. -/
  warnings : List String
deriving DecidableEq, Repr

/-- Whether a backend is among the targets. -/
def asksFor (targets : List Target) (backend : Backend) : Bool :=
  targets.any (·.backend == backend)

/-- Whether the targets cannot share one pass. -/
def conflict (targets : List Target) : Bool :=
  asksFor targets .hip && asksFor targets .cuda

/-- The warning for targets that are moved to explicit mode because they cannot share one pass. -/
def conflictWarning : String :=
  "CUDA and HIP cannot be targeted simultaneously in non-explicit multipass; " ++
    "enabling explicit multipass compilation."

/-- The mode for these targets, and the warning if they force it. -/
def chooseMode (explicit : Bool) (targets : List Target) : Multipass × List String :=
  if explicit then (.explicit, [])
  else if conflict targets then (.explicit, [conflictWarning])
  else (.integrated, [])

/-- The warning for a variant that is overruled. -/
def overruledWarning (before : Variant) (own mode : Multipass) (after : Variant) : String :=
  s!"backend {before.name} operates in {own.name} by default, but {mode.name} is in effect; " ++
    s!"using {after.name}."

/-- What a variant comes to under a mode, and the warning if it insists on the other one. -/
def settle (mode : Multipass) (variant : Variant) : Variant × Option String :=
  match variant.insistsOn? with
  | none => (variant, none)
  | some own =>
    if own = mode then (variant, none)
    else (variant.inMode mode, some (overruledWarning variant own mode (variant.inMode mode)))

/-- The more strongly wanted of the best compiler so far and another one. -/
def stronger : Option Preference → Option Preference → Option Preference
  | best, none => best
  | none, some other => some other
  | some best, some other => if best.priority < other.priority then some other else some best

/-- The most strongly wanted compiler. -/
def strongest (settings : Settings) (best : Option Preference) :
    List Variant → Except Fault (Option Preference)
  | [] => .ok best
  | variant :: rest => do strongest settings (stronger best (← variant.preference? settings)) rest

/-- The option for a compiler in case that no variant has one, as the fault names it. -/
def fallbackOption : String :=
  s!"{Builtin.cpuCompiler.key} ({Builtin.cpuCompiler.flag})"

/-- The compiler for the host code. -/
def selectHostCompiler (settings : Settings) (variants : List Variant) : Except Fault String := do
  match ← strongest settings none variants with
  | some preference => return preference.executable
  | none =>
    match ← ofSettings (settings.value? Builtin.cpuCompiler.key) with
    | some executable => return executable
    | none => .error (.noHostCompiler fallbackOption)

/-- Decide on mode, variants and compiler. -/
def decide (settings : Settings) (targets : List Target) : Except Fault Decision := do
  let explicit ← ofSettings (settings.isOn? Builtin.isExplicitMultipass.key)
  let (mode, conflictWarnings) := chooseMode explicit targets
  let settled ← targets.mapM fun target => do
    return settle mode (← target.elaborate settings mode)
  let variants := settled.map (·.1)
  let hostCompiler ← selectHostCompiler settings variants
  return {
    targets := targets
    variants := variants
    multipass := mode
    hostCompiler := hostCompiler
    warnings := conflictWarnings ++ settled.filterMap (·.2) }

/-- Whether a backend was decided on. -/
def Decision.hasBackend (decision : Decision) (backend : Backend) : Bool :=
  decision.variants.any (·.backend == backend)

/-- What is noted about targets that are elaborated, up to the first that fails. -/
def elaborateRecords (settings : Settings) (mode : Multipass) : List Target → List Journal.Record
  | [] => []
  | target :: rest =>
    match target.elaborate settings mode with
    | .error _ => []
    | .ok variant =>
      ⟨.debug, .decision,
        s!"elaborated target {target.display} as {(settle mode variant).1.name}"⟩ ::
        elaborateRecords settings mode rest

/-- What is noted about a decision. -/
def decisionRecords (settings : Settings) (targets : List Target) : List Journal.Record :=
  match settings.isOn? Builtin.isExplicitMultipass.key with
  | .error _ => []
  | .ok explicit =>
    elaborateRecords settings (chooseMode explicit targets).1 targets ++
      match decide settings targets with
      | .error _ => []
      | .ok decision =>
        [⟨.debug, .decision,
          s!"selected host compiler {decision.hostCompiler} ({decision.multipass.name})"⟩]

end Offload.Target
