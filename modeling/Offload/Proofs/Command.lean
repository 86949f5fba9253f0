import Offload.Command
import Offload.Proofs.Target.Decision

/-! # The words of the planned command

What a command consists of, told from the settings, the mode that was decided and the targets as they
were listed, without the variants in between. `hostPassFlags_of_comesTo` and `linkFlags_of_comesTo`
say this of one target and `collectFlags_eq_flatMap` of all. `arguments_of_planning` joins the stages
from the driver's arguments to the command: what is put around the forwarded arguments is known from
the list of targets, and of the languages of clang for devices no two are ever chosen.
-/

namespace Offload.Command

open Target Options

section Description

/-- The text that an option is set to, if it is set to one. -/
def setTo? (settings : Settings) (key : String) : Option String :=
  (settings.value? key).toOption.join

/-- The words of the text that an option is set to. -/
def wordsOf (settings : Settings) (key : String) : List String :=
  (setTo? settings key).toList.flatMap fun text => (Text.words text.toList).map String.ofList

/-- The words that are configured for compiling. -/
def compileWords (settings : Settings) : Backend → List String
  | .omp => wordsOf settings "omp-cxx-flags"
  | .cuda => wordsOf settings "cuda-cxx-flags"
  | .hip => wordsOf settings "rocm-cxx-flags"
  | .cudaNvcxx | .generic => []

/-- The words that are configured for linking. -/
def linkWords (settings : Settings) : Backend → List String
  | .omp => wordsOf settings "omp-link-line"
  | .cuda => wordsOf settings "cuda-link-line"
  | .hip => wordsOf settings "rocm-link-line"
  | .cudaNvcxx | .generic => []

/-- The words that the driver adds for a target on its own. -/
def generated (settings : Settings) : Multipass → Target → List String
  | .integrated, ⟨.cuda, _, architectures⟩ =>
    ["-x", "cuda"] ++ architectures.map ("--cuda-gpu-arch=" ++ ·) ++
      (setTo? settings "cuda-path").toList.map ("--cuda-path=" ++ ·)
  | .integrated, ⟨.hip, _, architectures⟩ =>
    ["-x", "hip"] ++ architectures.map ("--offload-arch=" ++ ·) ++
      (setTo? settings "rocm-path").toList.map ("--rocm-path=" ++ ·)
  | .explicit, ⟨.cuda, _, _⟩ | .explicit, ⟨.hip, _, _⟩ => []
  | _, ⟨.cudaNvcxx, _, architectures⟩ => "-cuda" :: architectures.head?.toList.map ("-gpu=" ++ ·)
  | _, ⟨.omp, _, _⟩ | _, ⟨.generic, _, _⟩ => []

/-- What stands before the forwarded arguments. -/
def compiling (settings : Settings) (mode : Multipass) (targets : List Target) : List String :=
  if settings.forwarded.any Screening.namesSource then
    targets.flatMap fun target =>
      compileWords settings target.backend ++ generated settings mode target
  else []

/-- What stands behind the forwarded arguments. -/
def linking (settings : Settings) (targets : List Target) : List String :=
  if settings.forwarded.any (["-c", "-S", "-E"].contains ·) then []
  else targets.flatMap (linkWords settings ·.backend)

/-- All stages from the arguments to the command succeed, with these results. -/
structure Planning (arguments : List String) (environment : Environment)
    (defaults : Settings.Defaults) (settings : Settings) (targets : List Target)
    (decision : Decision) (command : Command) : Prop where
  resolved : Settings.resolve Table.builtin arguments environment defaults = .ok settings
  listed : ∃ given warning?, effective settings = .ok (given, warning?) ∧
    Target.parse given = .ok targets
  decided : Target.decide settings targets = .ok decision
  planned : plan settings decision = .ok command

end Description

section Flags

variable {settings : Settings} {mode : Multipass} {target : Target} {variant : Variant}
  {flags : List String}

theorem setTo?_of_value? {key : String} {found : Option String}
    (known : settings.value? key = .ok found) : setTo? settings key = found := by
  rw [setTo?, known]
  rfl

theorem configuredWords_eq {option : Entry} {key : String} {words : List String}
    (spelled : option.key = key)
    (configured : Variant.configuredWords settings (some option) = .ok words) :
    words = wordsOf settings key := by
  subst spelled
  obtain ⟨found, known, read⟩ := Except.bind_eq_ok_iff.mp configured
  rw [wordsOf, setTo?_of_value? (Except.mapError_eq_ok_iff.mp known)]
  cases found with
  | none => exact (Except.ok.inj read).symm
  | some text =>
    obtain rfl := Except.ok.inj read
    exact (List.append_nil _).symm

theorem pathFlag_eq {option : Entry} {key flag : String} (spelled : option.key = key)
    (given : Variant.pathFlag settings option flag = .ok flags) :
    flags = (setTo? settings key).toList.map (flag ++ ·) := by
  subst spelled
  obtain ⟨found, known, read⟩ := Except.bind_eq_ok_iff.mp given
  rw [setTo?_of_value? (Except.mapError_eq_ok_iff.mp known)]
  exact (Except.ok.inj read).symm

theorem deviceFlags_of_comesTo (comes : ComesTo mode target variant)
    (given : variant.deviceFlags settings = .ok flags) : flags = generated settings mode target := by
  cases comes with
  | library | accelerated | generic => cases mode <;> exact (Except.ok.inj given).symm
  | cudaNvcxx => cases mode <;> exact (Except.ok.inj given).symm
  | cuda | hip =>
    cases mode with
    | explicit => exact (Except.ok.inj given).symm
    | integrated =>
      obtain ⟨path, isPath, done⟩ := Except.bind_eq_ok_iff.mp given
      obtain rfl := Except.ok.inj done
      rw [generated]
      exact congrArg (_ ++ ·) (pathFlag_eq (by rfl) isPath)

theorem hostPassFlags_of_comesTo (comes : ComesTo mode target variant)
    (given : variant.hostPassFlags settings = .ok flags) :
    flags = compileWords settings target.backend ++ generated settings mode target := by
  obtain ⟨configured, isConfigured, given⟩ := Except.bind_eq_ok_iff.mp given
  obtain ⟨device, isDevice, done⟩ := Except.bind_eq_ok_iff.mp given
  obtain rfl := Except.ok.inj done
  rw [deviceFlags_of_comesTo comes isDevice]
  apply congrArg (· ++ _)
  cases comes with
  | library | accelerated | cuda | hip => exact configuredWords_eq (by rfl) isConfigured
  | cudaNvcxx | generic => exact (Except.ok.inj isConfigured).symm

theorem linkFlags_of_comesTo (comes : ComesTo mode target variant)
    (given : variant.linkFlags settings = .ok flags) :
    flags = linkWords settings target.backend := by
  cases comes with
  | library | accelerated | cuda | hip => exact configuredWords_eq (by rfl) given
  | cudaNvcxx | generic => exact (Except.ok.inj given).symm

/-- Flags that each variant has by its target are collected in the order of the targets. -/
theorem collectFlags_eq_flatMap {flags : Variant → Except Fault (List String)}
    {reference : Target → List String} {targets : List Target} {variants : List Variant}
    {collected : List String}
    (each : ∀ target variant own, ComesTo mode target variant → flags variant = .ok own →
      own = reference target)
    (comes : List.Forall₂ (ComesTo mode) targets variants)
    (done : collectFlags flags variants = .ok collected) :
    collected = targets.flatMap reference := by
  obtain ⟨lists, traversed, flat⟩ := Except.bind_eq_ok_iff.mp done
  obtain rfl := Except.ok.inj flat
  have found := Except.mapM_eq_ok_iff.mp traversed
  clear traversed done flat
  induction comes generalizing lists with
  | nil =>
    obtain rfl := List.forall₂_nil_left_iff.mp found
    rfl
  | cons first _ ih =>
    obtain ⟨own, later, isOwn, foundLater, rfl⟩ := List.forall₂_cons_left_iff.mp found
    rw [List.flatten_cons, List.flatMap_cons, each _ _ own first isOwn, ih later foundLater]

end Flags

section Languages

variable {settings : Settings} {mode : Multipass} {targets : List Target}

theorem dash_of_mem_map {flag word : String} {arguments : List String} (dash : ['-'] <+: flag.toList)
    (member : word ∈ arguments.map (flag ++ ·)) : ['-'] <+: word.toList := by
  obtain ⟨argument, -, rfl⟩ := List.mem_map.mp member
  rw [String.toList_append]
  exact dash.trans (List.prefix_append ..)

theorem dash_or_language {language archFlag pathFlag word : String} {architectures paths : List String}
    (archDash : ['-'] <+: archFlag.toList) (pathDash : ['-'] <+: pathFlag.toList)
    (member : word ∈ ["-x", language] ++ architectures.map (archFlag ++ ·) ++
      paths.map (pathFlag ++ ·)) : ['-'] <+: word.toList ∨ word = language := by
  rw [List.mem_append, List.mem_append, List.mem_pair] at member
  rcases member with ((rfl | rfl) | inArchitectures) | inPaths
  · exact .inl (by decide)
  · exact .inr rfl
  · exact .inl (dash_of_mem_map archDash inArchitectures)
  · exact .inl (dash_of_mem_map pathDash inPaths)

/-- Every word that the driver adds is a flag, but for the language of a target that is compiled in
one pass, which has the name of its backend. -/
theorem of_mem_generated {target : Target} {word : String}
    (member : word ∈ generated settings mode target) :
    ['-'] <+: word.toList ∨ mode = .integrated ∧ word = target.backend.name := by
  obtain ⟨backend, flavor?, architectures⟩ := target
  cases backend with
  | omp | generic => cases mode <;> exact absurd member List.not_mem_nil
  | cuda | hip =>
    cases mode with
    | explicit => exact absurd member List.not_mem_nil
    | integrated =>
      apply (dash_or_language (by decide) (by decide) member).imp_right
      exact fun same => ⟨rfl, same⟩
  | cudaNvcxx =>
    have words : word ∈ "-cuda" :: architectures.head?.toList.map ("-gpu=" ++ ·) := by
      cases mode <;> exact member
    rcases List.mem_cons.mp words with rfl | inArchitecture
    · exact .inl (by decide)
    · exact .inl (dash_of_mem_map (by decide) inArchitecture)

/-- The name of a backend is added in integrated mode only, and for this backend. -/
theorem of_name_mem_generated {backend : Backend}
    (member : backend.name ∈ targets.flatMap (generated settings mode)) :
    mode = .integrated ∧ backend ∈ targets.map (·.backend) := by
  obtain ⟨target, listed, member⟩ := List.mem_flatMap.mp member
  rcases of_mem_generated member with isFlag | ⟨integrated, same⟩
  · cases backend <;> exact absurd isFlag (by decide)
  · refine ⟨integrated, List.mem_map.mpr ⟨target, listed, ?_⟩⟩
    have named := Backend.ofName?_name backend
    rw [same, Backend.ofName?_name] at named
    exact Option.some.inj named

end Languages

section Arguments

variable {arguments : List String} {environment : Environment} {defaults : Settings.Defaults}
  {settings : Settings} {targets : List Target} {decision : Decision} {command : Command}

/-- The two groups of flags are found one after the other, and each is left out by its own test. -/
theorem plan_eq (settings : Settings) (decision : Decision) :
    plan settings decision =
      (if Screening.linksOnly settings.forwarded then .ok [] else
        collectFlags (Variant.hostPassFlags settings) decision.variants) >>= fun front =>
      (if stopsBeforeLinking settings.forwarded then .ok [] else
        collectFlags (Variant.linkFlags settings) decision.variants) >>= fun back =>
      .ok ⟨decision.hostCompiler, front ++ settings.forwarded ++ back⟩ := by
  rw [plan]
  split <;> split <;> rfl

theorem exists_of_plan (planned : plan settings decision = .ok command) :
    ∃ front back,
      (if Screening.linksOnly settings.forwarded then .ok [] else
        collectFlags (Variant.hostPassFlags settings) decision.variants) = .ok front ∧
      (if stopsBeforeLinking settings.forwarded then .ok [] else
        collectFlags (Variant.linkFlags settings) decision.variants) = .ok back ∧
      command.arguments = front ++ settings.forwarded ++ back := by
  rw [plan_eq] at planned
  obtain ⟨front, isFront, planned⟩ := Except.bind_eq_ok_iff.mp planned
  obtain ⟨back, isBack, done⟩ := Except.bind_eq_ok_iff.mp planned
  obtain rfl := Except.ok.inj done
  exact ⟨front, back, isFront, isBack, rfl⟩

theorem arguments_of_plan
    (comes : List.Forall₂ (ComesTo decision.multipass) targets decision.variants)
    (planned : plan settings decision = .ok command) :
    command.arguments = compiling settings decision.multipass targets ++ settings.forwarded ++
      linking settings targets := by
  obtain ⟨front, back, isFront, isBack, arguments⟩ := exists_of_plan planned
  have front_eq : front = compiling settings decision.multipass targets := by
    rw [Screening.linksOnly] at isFront
    rw [compiling]
    cases compiles : settings.forwarded.any Screening.namesSource with
    | true =>
      rw [compiles] at isFront
      exact collectFlags_eq_flatMap (fun _ _ _ => hostPassFlags_of_comesTo) comes isFront
    | false =>
      rw [compiles] at isFront
      exact (Except.ok.inj isFront).symm
  have back_eq : back = linking settings targets := by
    rw [stopsBeforeLinking] at isBack
    change back = if settings.forwarded.any stoppingFlags.contains then _ else _
    cases stops : settings.forwarded.any stoppingFlags.contains with
    | true =>
      rw [stops] at isBack
      exact (Except.ok.inj isBack).symm
    | false =>
      rw [stops] at isBack
      exact collectFlags_eq_flatMap (fun _ _ _ => linkFlags_of_comesTo) comes isBack
  rw [arguments, front_eq, back_eq]

/-- The forwarded arguments stand, as they were given, between what is configured and generated for
compiling and what is configured for linking; at most one language for devices is generated. -/
theorem arguments_of_planning
    (planning : Planning arguments environment defaults settings targets decision command) :
    settings.forwarded = Settings.forwardedArguments Table.builtin arguments ∧
      command.arguments = compiling settings decision.multipass targets ++ settings.forwarded ++
        linking settings targets ∧
      ¬ (["-x", "cuda"] <:+: targets.flatMap (generated settings decision.multipass) ∧
        ["-x", "hip"] <:+: targets.flatMap (generated settings decision.multipass)) := by
  obtain ⟨values, -, resolved⟩ := Except.bind_eq_ok_iff.mp planning.resolved
  obtain ⟨explicit, forced, -, chosen, comes, -⟩ := exists_of_decide planning.decided
  refine ⟨?_, arguments_of_plan comes planning.planned, ?_⟩
  · obtain rfl := Except.ok.inj resolved
    rfl
  · rintro ⟨cuda, hip⟩
    have isCuda := @of_name_mem_generated settings _ targets .cuda (cuda.subset (by decide))
    have isHip := @of_name_mem_generated settings _ targets .hip (hip.subset (by decide))
    have both := conflict_iff.mpr ⟨isHip.2, isCuda.2⟩
    rw [(of_chooseMode chosen).1.mpr (.inr both)] at isCuda
    exact absurd isCuda.1 (by decide)

theorem arguments_of_planning_hip : ∃ settings targets decision command,
    Planning ["--acpp-targets=hip:gfx906;omp", "--acpp-clang=clang++", "-O2", "a.cpp",
      "--acpp-rocm-cxx-flags=-DA -DB", "--acpp-omp-link-line=-lm"] [] Settings.Defaults.empty
      settings targets decision command ∧
    command.arguments =
      ["-DA", "-DB", "-x", "hip", "--offload-arch=gfx906", "-O2", "a.cpp", "-lm"] := by
  have planning : Planning ["--acpp-targets=hip:gfx906;omp", "--acpp-clang=clang++", "-O2", "a.cpp",
      "--acpp-rocm-cxx-flags=-DA -DB", "--acpp-omp-link-line=-lm"] [] Settings.Defaults.empty _ _ _ _ :=
    ⟨rfl, ⟨_, _, rfl, rfl⟩, rfl, rfl⟩
  refine ⟨_, _, _, _, planning, ?_⟩
  rw [(arguments_of_planning planning).2.1]
  rfl

end Arguments

end Offload.Command
