import Offload.Proofs.Command
import Offload.Proofs.Settings.Kinds
import Offload.Proofs.Target.HostCompiler
import Offload.Proofs.Target.Platform

/-! # The faults that remain

Once the settings are resolved, every option that a stage asks for is one of the table and is asked
for in its own kind, so settings that answer (`Settings.Answers`) let no stage fail by an option. Each
stage has one lemma for this, which cites those of the stages it is made of. What remains is the
user's: a platform of no known name, a list of targets that means none, and no compiler at all
(`faults_of_resolve`).
-/

namespace Offload

open Options
open Settings (Answers)

variable {settings : Settings}

namespace Target

section Variants

open Variant

theorem succeeds_configuredWords (answers : Answers Table.builtin settings) {option? : Option Entry}
    (listed : ∀ option ∈ option?, option ∈ Table.builtin ∧ option.isSwitch = false) :
    (configuredWords settings option?).Succeeds := by
  cases option? with
  | none => exact .ok []
  | some option =>
    obtain ⟨member, valued⟩ := listed option rfl
    apply ((answers.succeeds_value? member valued).mapError _).bind
    intro value? _
    cases value? with
    | none => exact .ok []
    | some value => exact .ok _

theorem succeeds_pathFlag (answers : Answers Table.builtin settings) {option : Entry}
    (member : option ∈ Table.builtin) (valued : option.isSwitch = false) (flag : String) :
    (pathFlag settings option flag).Succeeds :=
  ((answers.succeeds_value? member valued).mapError _).bind fun path? _ =>
    .ok (path?.toList.map (flag ++ ·))

theorem succeeds_deviceFlags (answers : Answers Table.builtin settings) (variant : Variant) :
    (variant.deviceFlags settings).Succeeds := by
  have path (option : Entry) (member : option ∈ Table.builtin) (valued : option.isSwitch = false)
      (flag : String) (others : List String) :
      (do return others ++ (← pathFlag settings option flag)).Succeeds :=
    (succeeds_pathFlag answers member valued flag).bind fun path _ => .ok (others ++ path)
  cases variant with
  | ompLibraryOnly | ompAccelerated | sscp => exact .ok []
  | cudaNvcxx architecture? => exact .ok _
  | cuda device =>
    obtain ⟨flavor?, architectures, _ | _⟩ := device
    · exact path Builtin.cudaPath (by simp [Table.builtin]) rfl _ _
    · exact .ok []
  | hip device =>
    obtain ⟨flavor?, architectures, _ | _⟩ := device
    · exact path Builtin.rocmPath (by simp [Table.builtin]) rfl _ _
    · exact .ok []

theorem succeeds_hostPassFlags (answers : Answers Table.builtin settings) (variant : Variant) :
    (variant.hostPassFlags settings).Succeeds := by
  have listed : ∀ option ∈ variant.cxxFlagsOption?,
      option ∈ Table.builtin ∧ option.isSwitch = false := by
    intro option found
    cases variant <;> cases found <;> exact ⟨by simp [Table.builtin], rfl⟩
  exact (succeeds_configuredWords answers listed).bind fun configured _ =>
    (succeeds_deviceFlags answers variant).bind fun device _ => .ok _

theorem succeeds_linkFlags (answers : Answers Table.builtin settings) (variant : Variant) :
    (variant.linkFlags settings).Succeeds := by
  have listed : ∀ option ∈ variant.linkLineOption?,
      option ∈ Table.builtin ∧ option.isSwitch = false := by
    intro option found
    cases variant <;> cases found <;> exact ⟨by simp [Table.builtin], rfl⟩
  exact succeeds_configuredWords answers listed

theorem succeeds_elaborate (answers : Answers Table.builtin settings) (mode : Multipass)
    (target : Target) : (target.elaborate settings mode).Succeeds := by
  obtain ⟨backend, flavor?, architectures⟩ := target
  cases backend with
  | cuda | cudaNvcxx | hip | generic => exact .ok _
  | omp =>
    simp only [elaborate]
    split
    · exact .ok _
    · exact .ok _
    · have accelerated : Builtin.useAcceleratedCpu ∈ Table.builtin := by simp [Table.builtin]
      apply ((answers.succeeds_isOn? accelerated).mapError _).bind
      intro on _
      cases on with
      | true => exact .ok _
      | false => exact .ok _

end Variants

section Decisions

/-- No compiler is selected only where none is known. -/
theorem fault_of_selectHostCompiler (answers : Answers Table.builtin settings)
    {variants : List Variant} {fault : Fault}
    (failed : selectHostCompiler settings variants = .error fault) :
    fault = .noHostCompiler fallbackOption := by
  obtain ⟨compilers, named⟩ := Compilers.exists_of answers
  rw [named.selectHostCompiler_eq] at failed
  cases selected : compilers.select variants with
  | some executable =>
    rw [selected] at failed
    contradiction
  | none =>
    rw [selected] at failed
    exact (Except.error.inj failed).symm

theorem fault_of_decide (answers : Answers Table.builtin settings) {targets : List Target}
    {fault : Fault} (failed : decide settings targets = .error fault) :
    fault = .noHostCompiler fallbackOption := by
  have isExplicit : Builtin.isExplicitMultipass ∈ Table.builtin := by simp [Table.builtin]
  obtain ⟨explicit, -, failed⟩ :=
    ((answers.succeeds_isOn? isExplicit).mapError _).bind_eq_error_iff.mp failed
  rcases chosen : chooseMode explicit targets with ⟨mode, forced⟩
  rw [chosen] at failed
  have elaborated : (targets.mapM fun target : Target => do
      return settle mode (← target.elaborate settings mode)).Succeeds :=
    .mapM fun target _ => (succeeds_elaborate answers mode target).bind fun variant _ =>
      .ok (settle mode variant)
  obtain ⟨settled, -, failed⟩ := elaborated.bind_eq_error_iff.mp failed
  rcases Except.bind_eq_error_iff.mp failed with failed | ⟨compiler, -, absurdity⟩
  · exact fault_of_selectHostCompiler answers failed
  · cases absurdity

end Decisions

end Target

namespace Command

open Target

theorem succeeds_collectFlags {flags : Variant → Except Fault (List String)}
    (each : ∀ variant, (flags variant).Succeeds) (variants : List Variant) :
    (collectFlags flags variants).Succeeds :=
  (Except.Succeeds.mapM fun variant _ => each variant).bind fun lists _ => .ok lists.flatten

theorem succeeds_plan (answers : Answers Table.builtin settings) (decision : Decision) :
    (plan settings decision).Succeeds := by
  rw [plan_eq]
  apply Except.Succeeds.bind
  · split
    · exact .ok []
    · exact succeeds_collectFlags (succeeds_hostPassFlags answers) decision.variants
  · intro front _
    apply Except.Succeeds.bind
    · split
      · exact .ok []
      · exact succeeds_collectFlags (succeeds_linkFlags answers) decision.variants
    · exact fun back _ => .ok _

end Command

namespace Target

/-- Once the settings are resolved, targets are missing only where the platform has no known name, a
list is refused only for what it says, a decision fails only for want of a compiler, and what was
decided on is planned. -/
theorem faults_of_resolve {arguments : List String} {environment : Environment}
    {defaults : Settings.Defaults}
    (resolved : Settings.resolve Table.builtin arguments environment defaults = .ok settings) :
    (∀ fault, effective settings = .error fault ↔
      settings.source? "targets" = .ok (some .builtin) ∧
        ∃ platform, settings.value? "platform" = .ok (some platform) ∧
          folded platform ∉ platformNames ∧
          fault = .invalidList platform (.unknownPlatform (folded platform))) ∧
    (∀ given fault, parse given = .error fault → ∃ cause, fault = .invalidList given cause) ∧
    (∀ targets fault, decide settings targets = .error fault →
      fault = .noHostCompiler "cpu-compiler (--acpp-cpu-cxx)") ∧
    ∀ targets decision, decide settings targets = .ok decision →
      ∃ command, Command.plan settings decision = .ok command := by
  have answers := Settings.answers_of_resolve Table.regular_builtin resolved
  refine ⟨fun fault => effective_eq_error_iff answers, ?_, ?_, ?_⟩
  · intro given fault failed
    obtain ⟨cause, -, rfl⟩ := Except.mapError_eq_error_iff.mp failed
    exact ⟨cause, rfl⟩
  · exact fun targets fault => fault_of_decide answers
  · exact fun targets decision _ => Command.succeeds_plan answers decision

/-- A platform of another name, and no compiler. -/
theorem faults_of_resolve_fpga : ∃ settings,
    Settings.resolve Table.builtin ["--acpp-platform=FPGA", "a.cpp"] [] Settings.Defaults.empty =
      .ok settings ∧
    effective settings = .error (.invalidList "FPGA" (.unknownPlatform "fpga")) ∧
    decide settings [⟨.omp, none, []⟩] = .error (.noHostCompiler "cpu-compiler (--acpp-cpu-cxx)") := by
  have runs : ∃ settings,
      Settings.resolve Table.builtin ["--acpp-platform=FPGA", "a.cpp"] [] Settings.Defaults.empty =
        .ok settings ∧
      settings.source? "targets" = .ok (some .builtin) ∧
      settings.value? "platform" = .ok (some "FPGA") ∧
      ∃ fault, decide settings [⟨.omp, none, []⟩] = .error fault := ⟨_, rfl, rfl, rfl, _, rfl⟩
  obtain ⟨settings, resolved, default, platform, fault, failed⟩ := runs
  obtain ⟨missing, -, only, -⟩ := faults_of_resolve resolved
  refine ⟨settings, resolved, (missing _).mpr ⟨default, "FPGA", platform, by decide, rfl⟩, ?_⟩
  rw [← only _ fault failed]
  exact failed

end Target

end Offload
