import Offload.Invocation.Basic
import Offload.Proofs.Settings.Frame

/-! # What the command depends on

On the way from settings to a command few options are asked for (`consulted`). Settings that agree on
these and hand the same arguments on have the same targets, the same decision, the same command and the
same warnings, or the same fault (`prepare_congr`); no other option has a say. Each function that
reads settings has one lemma for this, which opens the function and cites the lemmas of those it calls.
-/

namespace Offload

open Options

namespace Settings

/-- Settings that read alike at these keys, with the same arguments for the compiler. -/
structure AgreeOn (keys : List String) (settings settings' : Settings) : Prop where
  forwarded : settings.forwarded = settings'.forwarded
  entry : ∀ key ∈ keys, settings.entry key = settings'.entry key

theorem AgreeOff.agreeOn {key : String} {keys : List String} {settings settings' : Settings}
    (agree : AgreeOff key settings settings') (absent : key ∉ keys) :
    AgreeOn keys settings settings' := by
  refine ⟨agree.forwarded, fun other member => agree.entry other ?_⟩
  rintro rfl
  exact absent member

/-- The keys of the options that the way from settings to a command asks for. -/
def consulted : List String := [
  Builtin.targets.key, Builtin.platform.key, Builtin.gpuArch.key, Builtin.isExplicitMultipass.key,
  Builtin.useAcceleratedCpu.key, Builtin.cpuCompiler.key, Builtin.clang.key, Builtin.nvcxx.key,
  Builtin.ompCxxFlags.key, Builtin.cudaCxxFlags.key, Builtin.rocmCxxFlags.key,
  Builtin.ompLinkLine.key, Builtin.cudaLinkLine.key, Builtin.rocmLinkLine.key,
  Builtin.cudaPath.key, Builtin.rocmPath.key]

namespace AgreeOn

variable {settings settings' : Settings}

section Accessors

variable {keys : List String} {key : String}

theorem value_eq (agree : AgreeOn keys settings settings') (member : key ∈ keys) :
    settings.value key = settings'.value key := by
  simp only [value, agree.entry key member]

theorem value?_eq (agree : AgreeOn keys settings settings') (member : key ∈ keys) :
    settings.value? key = settings'.value? key := by
  simp only [value?, agree.value_eq member]

theorem isOn?_eq (agree : AgreeOn keys settings settings') (member : key ∈ keys) :
    settings.isOn? key = settings'.isOn? key := by
  simp only [isOn?, agree.entry key member]

theorem source?_eq (agree : AgreeOn keys settings settings') (member : key ∈ keys) :
    settings.source? key = settings'.source? key := by
  simp only [source?, agree.entry key member]

end Accessors

end AgreeOn

end Settings

section Stages

open Settings (AgreeOn consulted)

variable {settings settings' : Settings}

namespace Target

theorem effective_congr (agree : AgreeOn consulted settings settings') :
    effective settings = effective settings' := by
  simp only [effective, agree.value_eq (by decide : Builtin.targets.key ∈ consulted),
    agree.source?_eq (by decide : Builtin.targets.key ∈ consulted),
    agree.value?_eq (by decide : Builtin.platform.key ∈ consulted),
    agree.value?_eq (by decide : Builtin.gpuArch.key ∈ consulted)]

theorem elaborate_congr (agree : AgreeOn consulted settings settings') (mode : Multipass)
    (target : Target) : target.elaborate settings mode = target.elaborate settings' mode := by
  unfold elaborate
  rw [agree.isOn?_eq (by decide : Builtin.useAcceleratedCpu.key ∈ consulted)]

namespace Variant

theorem preference?_congr (agree : AgreeOn consulted settings settings') (variant : Variant) :
    variant.preference? settings = variant.preference? settings' := by
  have asked : variant.compilerOption.1.key ∈ consulted := by
    cases variant <;> simp [compilerOption, consulted]
  simp only [preference?, agree.value?_eq asked]

theorem configuredWords_congr (agree : AgreeOn consulted settings settings')
    {option? : Option Entry} (asked : ∀ option ∈ option?, option.key ∈ consulted) :
    configuredWords settings option? = configuredWords settings' option? := by
  cases option? with
  | none => rfl
  | some option =>
    simp only [configuredWords, agree.value?_eq (asked option rfl)]

theorem pathFlag_congr (agree : AgreeOn consulted settings settings') {option : Entry}
    (asked : option.key ∈ consulted) (flag : String) :
    pathFlag settings option flag = pathFlag settings' option flag := by
  simp only [pathFlag, agree.value?_eq asked]

theorem deviceFlags_congr (agree : AgreeOn consulted settings settings') (variant : Variant) :
    variant.deviceFlags settings = variant.deviceFlags settings' := by
  unfold deviceFlags
  rw [pathFlag_congr agree (by decide : Builtin.cudaPath.key ∈ consulted),
    pathFlag_congr agree (by decide : Builtin.rocmPath.key ∈ consulted)]

theorem hostPassFlags_congr (agree : AgreeOn consulted settings settings') (variant : Variant) :
    variant.hostPassFlags settings = variant.hostPassFlags settings' := by
  have asked : ∀ option ∈ variant.cxxFlagsOption?, option.key ∈ consulted := by
    cases variant <;> simp [cxxFlagsOption?, consulted]
  simp only [hostPassFlags, configuredWords_congr agree asked, deviceFlags_congr agree]

theorem linkFlags_congr (agree : AgreeOn consulted settings settings') (variant : Variant) :
    variant.linkFlags settings = variant.linkFlags settings' := by
  have asked : ∀ option ∈ variant.linkLineOption?, option.key ∈ consulted := by
    cases variant <;> simp [linkLineOption?, consulted]
  exact configuredWords_congr agree asked

end Variant

theorem strongest_congr (agree : AgreeOn consulted settings settings')
    (best : Option Preference) (variants : List Variant) :
    strongest settings best variants = strongest settings' best variants := by
  induction variants generalizing best with
  | nil => rfl
  | cons variant rest ih =>
    simp only [strongest, Variant.preference?_congr agree, ih]

theorem selectHostCompiler_congr (agree : AgreeOn consulted settings settings')
    (variants : List Variant) :
    selectHostCompiler settings variants = selectHostCompiler settings' variants := by
  simp only [selectHostCompiler, strongest_congr agree,
    agree.value?_eq (by decide : Builtin.cpuCompiler.key ∈ consulted)]

theorem decide_congr (agree : AgreeOn consulted settings settings') (targets : List Target) :
    decide settings targets = decide settings' targets := by
  simp only [Target.decide, agree.isOn?_eq (by decide : Builtin.isExplicitMultipass.key ∈ consulted),
    elaborate_congr agree, selectHostCompiler_congr agree]

end Target

namespace Command

theorem plan_congr (agree : AgreeOn consulted settings settings') (decision : Target.Decision) :
    plan settings decision = plan settings' decision := by
  have compiling : Target.Variant.hostPassFlags settings = Target.Variant.hostPassFlags settings' :=
    funext (Target.Variant.hostPassFlags_congr agree)
  have linking : Target.Variant.linkFlags settings = Target.Variant.linkFlags settings' :=
    funext (Target.Variant.linkFlags_congr agree)
  simp only [plan, agree.forwarded, compiling, linking]

end Command

namespace Invocation

theorem prepare_congr (agree : AgreeOn consulted settings settings') :
    prepare settings = prepare settings' := by
  simp only [prepare, agree.forwarded, Target.effective_congr agree, Target.decide_congr agree,
    Command.plan_congr agree]

end Invocation

end Stages

end Offload
