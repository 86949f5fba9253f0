import Offload.Proofs.Except
import Offload.Settings.Resolution
import Offload.Target.Decision

/-! # What is decided on targets

A decision is described by the flag and the list of targets alone: which mode a target insists on
(`pinned?`), what it comes to in the mode of the invocation (`ComesTo`) and which message it causes
if that is the other mode (`overruled?`). `settle_of_elaborate` shows this of one target, that
elaboration in its own mode and the later change of mode come to the same; `exists_of_decide` shows
it of the list. `mode_and_warnings_of_decide` derives the mode, the backends, that no two targets
keep languages of clang in one pass that exclude each other, and every warning.
-/

namespace Offload.Target

open Options

section Description

/-- The mode that a target insists on. -/
def pinned? (target : Target) : Option Multipass :=
  match target.backend with
  | .omp => none
  | .cuda | .hip => target.flavor?.bind (·.multipass?)
  | .cudaNvcxx | .generic => some .integrated

/-- The name of what a backend comes to in a mode. -/
def Backend.nameIn : Backend → Multipass → String
  | .cuda, .integrated => "cuda.integrated-multipass"
  | .cuda, .explicit => "cuda.explicit-multipass"
  | .hip, .integrated => "hip.integrated-multipass"
  | .hip, .explicit => "hip.explicit-multipass"
  | .cudaNvcxx, _ => "cuda-nvcxx"
  | .generic, _ => "sscp"
  | .omp, _ => "omp"

/-- The message for a target that insists on another mode than the one in effect. -/
def overruled? (mode : Multipass) (target : Target) : Option String :=
  match target.pinned? with
  | none => none
  | some own =>
    if own = mode then none
    else some (s!"backend {target.backend.nameIn own} operates in {own.name} by default, but " ++
      s!"{mode.name} is in effect; using {target.backend.nameIn mode}.")

/-- What a target comes to in an invocation that runs in a mode. Only OpenMP leaves a choice. -/
inductive ComesTo (mode : Multipass) : Target → Variant → Prop where
  | library {flavor? : Option Flavor} {architectures : List String} :
      ComesTo mode ⟨.omp, flavor?, architectures⟩ .ompLibraryOnly
  | accelerated {flavor? : Option Flavor} {architectures : List String} :
      ComesTo mode ⟨.omp, flavor?, architectures⟩ .ompAccelerated
  | cuda {flavor? : Option Flavor} {architectures : List String} :
      ComesTo mode ⟨.cuda, flavor?, architectures⟩ (.cuda ⟨flavor?, architectures, mode⟩)
  | cudaNvcxx {flavor? : Option Flavor} {architectures : List String} :
      ComesTo mode ⟨.cudaNvcxx, flavor?, architectures⟩ (.cudaNvcxx architectures.head?)
  | hip {flavor? : Option Flavor} {architectures : List String} :
      ComesTo mode ⟨.hip, flavor?, architectures⟩ (.hip ⟨flavor?, architectures, mode⟩)
  | generic {flavor? : Option Flavor} {architectures : List String} :
      ComesTo mode ⟨.generic, flavor?, architectures⟩ .sscp

end Description

section Steps

variable {settings : Settings} {mode : Multipass} {target : Target} {variant : Variant}

theorem elaborate_omp {flavor? : Option Flavor} {architectures : List String}
    (elaborated : elaborate settings mode ⟨.omp, flavor?, architectures⟩ = .ok variant) :
    variant = .ompLibraryOnly ∨ variant = .ompAccelerated := by
  simp only [elaborate] at elaborated
  split at elaborated
  · exact .inr (Except.ok.inj elaborated).symm
  · exact .inl (Except.ok.inj elaborated).symm
  · obtain ⟨accelerated, -, chosen⟩ := Except.bind_eq_ok_iff.mp elaborated
    cases accelerated with
    | true => exact .inr (Except.ok.inj chosen).symm
    | false => exact .inl (Except.ok.inj chosen).symm

/-- A target starts in the mode it insists on and is moved to the one in effect: it comes to the same
as if it had started there, and the message says what it was moved from. -/
theorem settle_of_elaborate (elaborated : target.elaborate settings mode = .ok variant) :
    ComesTo mode target (settle mode variant).1 ∧
      (settle mode variant).2 = target.overruled? mode := by
  obtain ⟨backend, flavor?, architectures⟩ := target
  cases backend with
  | omp =>
    rcases elaborate_omp elaborated with rfl | rfl
    · exact ⟨.library, rfl⟩
    · exact ⟨.accelerated, rfl⟩
  | cuda =>
    obtain rfl := Except.ok.inj elaborated
    rcases flavor? with _ | flavor
    · exact ⟨.cuda, rfl⟩
    · cases flavor <;> cases mode <;> exact ⟨.cuda, rfl⟩
  | cudaNvcxx =>
    obtain rfl := Except.ok.inj elaborated
    cases mode <;> exact ⟨.cudaNvcxx, rfl⟩
  | hip =>
    obtain rfl := Except.ok.inj elaborated
    rcases flavor? with _ | flavor
    · exact ⟨.hip, rfl⟩
    · cases flavor <;> cases mode <;> exact ⟨.hip, rfl⟩
  | generic =>
    obtain rfl := Except.ok.inj elaborated
    cases mode <;> exact ⟨.generic, rfl⟩

theorem ComesTo.backend_eq (comes : ComesTo mode target variant) :
    variant.backend = target.backend := by
  cases comes <;> rfl

theorem map_backend_of_comesTo {targets : List Target} {variants : List Variant}
    (comes : List.Forall₂ (ComesTo mode) targets variants) :
    variants.map (·.backend) = targets.map (·.backend) := by
  induction comes with
  | nil => rfl
  | cons first _ ih => rw [List.map_cons, List.map_cons, first.backend_eq, ih]

theorem exists_comesTo {targets : List Target} {variants : List Variant}
    (comes : List.Forall₂ (ComesTo mode) targets variants) (member : variant ∈ variants) :
    ∃ target, ComesTo mode target variant := by
  induction comes with
  | nil => contradiction
  | cons first _ ih =>
    rcases List.mem_cons.mp member with rfl | later
    · exact ⟨_, first⟩
    · exact ih later

theorem conflict_iff {targets : List Target} : conflict targets = true ↔
    .hip ∈ targets.map (·.backend) ∧ .cuda ∈ targets.map (·.backend) := by
  simp [conflict, asksFor]

theorem of_chooseMode {explicit : Bool} {targets : List Target} {forced : List String}
    (chosen : chooseMode explicit targets = (mode, forced)) :
    (mode = .explicit ↔ explicit = true ∨ conflict targets = true) ∧
      forced = if explicit = false ∧ conflict targets = true then [conflictWarning] else [] := by
  rw [chooseMode] at chosen
  split at chosen
  · rename_i on
    obtain ⟨rfl, rfl⟩ := Prod.mk.inj chosen
    simp [on]
  · rename_i off
    split at chosen
    · rename_i both
      obtain ⟨rfl, rfl⟩ := Prod.mk.inj chosen
      simp [off, both]
    · rename_i apart
      obtain ⟨rfl, rfl⟩ := Prod.mk.inj chosen
      simp [off, apart]

end Steps

section Decisions

variable {settings : Settings} {targets : List Target} {decision : Decision}

/-- A decision follows from the flag and the targets. -/
theorem exists_of_decide (decided : decide settings targets = .ok decision) :
    ∃ explicit forced, settings.isOn? "is-explicit-multipass" = .ok explicit ∧
      chooseMode explicit targets = (decision.multipass, forced) ∧
      List.Forall₂ (ComesTo decision.multipass) targets decision.variants ∧
      decision.warnings = forced ++ targets.filterMap (·.overruled? decision.multipass) := by
  obtain ⟨explicit, flag, decided⟩ := Except.bind_eq_ok_iff.mp decided
  rcases chosen : chooseMode explicit targets with ⟨mode, forced⟩
  rw [chosen] at decided
  obtain ⟨settled, traversed, decided⟩ := Except.bind_eq_ok_iff.mp decided
  obtain ⟨compiler, -, done⟩ := Except.bind_eq_ok_iff.mp decided
  obtain rfl := Except.ok.inj done
  have each : List.Forall₂ (fun target result =>
      ComesTo mode target result.1 ∧ result.2 = target.overruled? mode) targets settled := by
    apply (Except.mapM_eq_ok_iff.mp traversed).imp
    intro target result step
    obtain ⟨variant, elaborated, settles⟩ := Except.bind_eq_ok_iff.mp step
    obtain rfl := Except.ok.inj settles
    exact settle_of_elaborate elaborated
  have messages : settled.map (·.2) = targets.map (·.overruled? mode) := by
    rw [← List.forall₂_eq_eq_eq, List.forall₂_map_left_iff, List.forall₂_map_right_iff]
    exact (each.imp fun _ _ both => both.2).flip
  refine ⟨explicit, forced, Except.mapError_eq_ok_iff.mp flag, chosen, ?_, ?_⟩
  · exact List.forall₂_map_right_iff.mpr (each.imp fun _ _ both => both.1)
  · change _ ++ settled.filterMap (id ∘ (·.2)) = _ ++ targets.filterMap (id ∘ (·.overruled? mode))
    rw [← List.filterMap_map, messages, List.filterMap_map]

/-- The mode, what the targets come to in it, and all that the user is told. -/
theorem mode_and_warnings_of_decide (decided : decide settings targets = .ok decision) :
    ∃ explicit, settings.isOn? "is-explicit-multipass" = .ok explicit ∧
      (decision.multipass = .explicit ↔ explicit = true ∨
        .hip ∈ targets.map (·.backend) ∧ .cuda ∈ targets.map (·.backend)) ∧
      decision.variants.map (·.backend) = targets.map (·.backend) ∧
      (∀ device, .cuda device ∈ decision.variants ∨ .hip device ∈ decision.variants →
        device.multipass = decision.multipass) ∧
      (∀ cuda hip, .cuda cuda ∈ decision.variants → .hip hip ∈ decision.variants →
        ¬ (cuda.multipass = .integrated ∧ hip.multipass = .integrated)) ∧
      decision.warnings =
        (if explicit = false ∧ .hip ∈ targets.map (·.backend) ∧ .cuda ∈ targets.map (·.backend) then
          [conflictWarning] else []) ++
        targets.filterMap (·.overruled? decision.multipass) := by
  obtain ⟨explicit, forced, flag, chosen, comes, warned⟩ := exists_of_decide decided
  obtain ⟨mode, rfl⟩ := of_chooseMode chosen
  rw [conflict_iff] at mode
  have kinds := map_backend_of_comesTo comes
  have device (device : Device) (member : .cuda device ∈ decision.variants ∨
      .hip device ∈ decision.variants) : device.multipass = decision.multipass := by
    rcases member with member | member
    · obtain ⟨target, came⟩ := exists_comesTo comes member
      cases came with
      | cuda => rfl
    · obtain ⟨target, came⟩ := exists_comesTo comes member
      cases came with
      | hip => rfl
  refine ⟨explicit, flag, mode, kinds, device, ?_, ?_⟩
  · rintro cuda hip isCuda isHip ⟨integrated, -⟩
    have asked : .hip ∈ targets.map (·.backend) ∧ .cuda ∈ targets.map (·.backend) := by
      rw [← kinds]
      exact ⟨List.mem_map_of_mem isHip, List.mem_map_of_mem isCuda⟩
    rw [device cuda (.inl isCuda), mode.mpr (.inr asked)] at integrated
    contradiction
  · simpa only [conflict_iff] using warned

theorem mode_and_warnings_of_decide_mixed : ∃ settings decision,
    Settings.resolve Table.builtin ["--acpp-clang=clang++"] [] Settings.Defaults.empty =
      .ok settings ∧
    decide settings [⟨.hip, some .integratedMultipass, ["gfx906"]⟩, ⟨.generic, none, []⟩,
      ⟨.cuda, none, ["sm_70"]⟩] = .ok decision ∧
    decision.multipass = .explicit ∧
    decision.warnings = [conflictWarning,
      "backend hip.integrated-multipass operates in integrated multipass by default, " ++
        "but explicit multipass is in effect; using hip.explicit-multipass.",
      "backend sscp operates in integrated multipass by default, " ++
        "but explicit multipass is in effect; using sscp."] := by
  have runs : ∃ settings decision,
      Settings.resolve Table.builtin ["--acpp-clang=clang++"] [] Settings.Defaults.empty =
        .ok settings ∧
      decide settings [⟨.hip, some .integratedMultipass, ["gfx906"]⟩, ⟨.generic, none, []⟩,
        ⟨.cuda, none, ["sm_70"]⟩] = .ok decision ∧
      settings.isOn? "is-explicit-multipass" = .ok false := ⟨_, _, rfl, rfl, rfl⟩
  obtain ⟨settings, decision, resolved, decided, off⟩ := runs
  obtain ⟨explicit, flag, mode, -, -, -, warned⟩ := mode_and_warnings_of_decide decided
  obtain rfl : false = explicit := Except.ok.inj (off.symm.trans flag)
  have isExplicit := mode.mpr (.inr ⟨by decide, by decide⟩)
  rw [isExplicit] at warned
  exact ⟨settings, decision, resolved, decided, isExplicit, warned⟩

end Decisions

end Offload.Target
