import Offload.Proofs.Settings.Kinds
import Offload.Proofs.Target.Display
import Offload.Proofs.Text.Lines
import Offload.Target.Platform

/-! # Platforms and the targets they stand for

Settings that were resolved leave one choice of the targets in effect (`exists_effective_eq`): those
that are set, or the ones that a platform stands for. A platform has one backend, but its list of
targets is text, in which the architecture is written as it was given. Such a list begins with one
target of that backend (`Spells.of_colon`) and goes on behind the first semicolon of the architecture
(`segments_colon`), so a platform stands for one target exactly if nothing follows there
(`targets_of_platform`).
-/

namespace Offload.Target

open Options
open Settings (Answers)
open Offload.Text (isBlank)

variable {settings : Settings}

section Platforms

/-- The names of the platforms. -/
def platformNames : List String := ["cpu", "host", "omp", "cuda", "nvidia", "rocm", "hip", "amd"]

/-- A name without regard to the case of its ASCII letters. -/
def folded (name : String) : String :=
  String.ofList (name.toList.map Char.toLower)

theorem platformBackend?_eq_none_iff {name : String} :
    platformBackend? name = none ↔ name ∉ platformNames := by
  have parts : name ∈ platformNames ↔
      name ∈ ["cpu", "host", "omp"] ∨ name ∈ ["cuda", "nvidia"] ∨ name ∈ ["rocm", "hip", "amd"] := by
    rw [← List.mem_append, ← List.mem_append]
    rfl
  unfold platformBackend?
  simp only [parts, List.contains_iff_mem, not_or]
  split
  · rename_i host
    exact iff_of_false nofun fun others => others.1 host
  · rename_i host
    split
    · rename_i cuda
      exact iff_of_false nofun fun others => others.2.1 cuda
    · rename_i cuda
      split
      · rename_i rocm
        exact iff_of_false nofun fun others => others.2.2 rocm
      · rename_i rocm
        exact iff_of_true rfl ⟨host, cuda, rocm⟩

theorem ofPlatform_eq_error_iff {platform : String} {architecture? : Option String} {fault : Fault} :
    ofPlatform platform architecture? = .error fault ↔
      folded platform ∉ platformNames ∧
        fault = .invalidList platform (.unknownPlatform (folded platform)) := by
  rw [← platformBackend?_eq_none_iff]
  unfold ofPlatform
  dsimp only
  rw [← folded]
  cases platformBackend? (folded platform) with
  | none => simp [eq_comm]
  | some backend => cases backend <;> cases architecture? <;> simp

/-- The list of targets of a platform is the name of its backend, behind which the architecture is
written where it counts. -/
theorem exists_of_ofPlatform {platform derived : String} {architecture? : Option String}
    (written : ofPlatform platform architecture? = .ok derived) :
    ∃ backend, platformBackend? (folded platform) = some backend ∧
      ((backend = .omp ∨ architecture? = none) ∧ derived = backend.name ∨
        backend ≠ .omp ∧ ∃ architecture, architecture? = some architecture ∧
          derived = s!"{backend.name}:{architecture}") := by
  unfold ofPlatform at written
  dsimp only at written
  rw [← folded] at written
  cases known : platformBackend? (folded platform) with
  | none => rw [known] at written; contradiction
  | some backend =>
    rw [known] at written
    refine ⟨backend, rfl, ?_⟩
    cases backend <;> cases architecture? <;> simp_all

/-- The targets in effect, told from what the options are set to. -/
theorem exists_effective_eq (answers : Answers Table.builtin settings) :
    ∃ given source? platform? architecture?,
      settings.source? Builtin.targets.key = .ok source? ∧
      settings.value? Builtin.platform.key = .ok platform? ∧
      settings.value? Builtin.gpuArch.key = .ok architecture? ∧
      effective settings =
        if source? = some .builtin then
          platform?.elim (.ok (given, none)) fun platform =>
            ofPlatform platform architecture? >>= fun derived =>
            .ok (derived, some (platformWarning derived))
        else .ok (given, none) := by
  have targets : Builtin.targets ∈ Table.builtin := by simp [Table.builtin]
  have platform : Builtin.platform ∈ Table.builtin := by simp [Table.builtin]
  have gpuArch : Builtin.gpuArch ∈ Table.builtin := by simp [Table.builtin]
  obtain ⟨given, isGiven⟩ := answers.succeeds_value targets rfl rfl
  obtain ⟨source?, isSource⟩ := answers.succeeds_source? targets
  obtain ⟨platform?, isPlatform⟩ := answers.succeeds_value? platform rfl
  obtain ⟨architecture?, isArchitecture⟩ := answers.succeeds_value? gpuArch rfl
  refine ⟨given, source?, platform?, architecture?, isSource, isPlatform, isArchitecture, ?_⟩
  unfold effective
  rw [isGiven, isSource, isPlatform, isArchitecture]
  cases platform? <;> rfl

/-- The targets in effect are not found exactly if they are left to a platform that has none of the
known names. -/
theorem effective_eq_error_iff (answers : Answers Table.builtin settings) {fault : Fault} :
    effective settings = .error fault ↔
      settings.source? "targets" = .ok (some .builtin) ∧
        ∃ platform, settings.value? "platform" = .ok (some platform) ∧
          folded platform ∉ platformNames ∧
          fault = .invalidList platform (.unknownPlatform (folded platform)) := by
  obtain ⟨given, source?, platform?, architecture?, isSource, isPlatform, -, effectively⟩ :=
    exists_effective_eq answers
  change _ ↔ settings.source? Builtin.targets.key = _ ∧
    ∃ platform, settings.value? Builtin.platform.key = _ ∧ _
  rw [effectively, isSource, isPlatform]
  split
  · rename_i default
    subst default
    cases platform? with
    | none => simp
    | some platform =>
      rw [Option.elim_some, Except.bind_eq_error_iff, ofPlatform_eq_error_iff]
      simp
  · rename_i chosen
    simp [chosen]

/-- A warning comes with a list of targets that was written from a platform. -/
theorem exists_of_effective (answers : Answers Table.builtin settings) {derived warning : String}
    (effectively : effective settings = .ok (derived, some warning)) :
    ∃ platform architecture?, settings.value? Builtin.platform.key = .ok (some platform) ∧
      settings.value? Builtin.gpuArch.key = .ok architecture? ∧
      ofPlatform platform architecture? = .ok derived := by
  obtain ⟨given, source?, platform?, architecture?, -, isPlatform, isArchitecture, known⟩ :=
    exists_effective_eq answers
  rw [known] at effectively
  split at effectively
  · cases platform? with
    | none => simp at effectively
    | some platform =>
      obtain ⟨written, isWritten, done⟩ := Except.bind_eq_ok_iff.mp effectively
      obtain ⟨rfl, -⟩ := Prod.mk.inj (Except.ok.inj done)
      exact ⟨platform, architecture?, isPlatform, isArchitecture, isWritten⟩
  · simp at effectively

end Platforms

section Segments

variable {text : List Char}

/-- The first segment of a text and those behind its first semicolon. -/
theorem segments_eq_cons (filled : Text.trim (Text.cutAt ';' text).1 ≠ []) :
    segments text =
      Text.trim (Text.cutAt ';' text).1 :: (Text.cutAt ';' text).2.elim [] segments := by
  rcases cut : Text.cutAt ';' text with ⟨front, _ | back⟩
  · rw [cut] at filled
    obtain ⟨rfl, whole⟩ := Text.cutAt_eq_none_iff.mp cut
    rw [segments, Text.fields_of_notMem whole, List.map_singleton,
      List.filter_cons_of_pos (by simpa using filled)]
    rfl
  · rw [cut] at filled
    obtain ⟨rfl, whole⟩ := Text.cutAt_eq_some_iff.mp cut
    rw [segments, Text.fields_append whole, List.map_cons,
      List.filter_cons_of_pos (by simpa using filled)]
    rfl

/-- A text has no segments if there is nothing in it but semicolons and blanks. -/
theorem segments_eq_nil_iff : segments text = [] ↔ ∀ c ∈ text, c = ';' ∨ isBlank c = true := by
  have blankFields : segments text = [] ↔
      ∀ field ∈ Text.fields ';' text, ∀ c ∈ field, isBlank c = true := by
    simp [segments, ← Text.trim_eq_nil_iff]
  have joined := Text.joinFields_fields ';' text
  rw [blankFields]
  constructor
  · intro blank c member
    rw [← joined] at member
    rcases Text.mem_joinFields member with mark | ⟨field, inFields, inField⟩
    · exact .inl mark
    · exact .inr (blank field inFields c inField)
  · intro marks field inFields c inField
    have inText : c ∈ text := joined ▸ (Text.infix_joinFields ';' inFields).mem inField
    have noMark := Text.not_isSeparator_of_mem_fieldsBy inFields c inField
    exact (marks c inText).resolve_left (beq_eq_false_iff_ne.mp noMark)

theorem segments_ne_nil_iff : segments text ≠ [] ↔ ∃ c ∈ text, c ≠ ';' ∧ isBlank c = false := by
  rw [ne_eq, segments_eq_nil_iff]
  simp

end Segments

section Written

variable {backend : Backend} {architecture : String} {targets : List Target}

/-- A name stands for one backend and one flavor at most. -/
theorem Named.unique {name : List Char} {backend other : Backend} {flavor? other? : Option Flavor}
    (first : Named name backend flavor?) (second : Named name other other?) :
    backend = other ∧ flavor? = other? := by
  have read := (readName_eq_ok_iff.mpr first).symm.trans (readName_eq_ok_iff.mpr second)
  exact Prod.mk.inj (Except.ok.inj read)

/-- Whatever stands behind the name of a backend and a colon, it is no flavor. -/
theorem Spells.of_colon {list : List Char} {target : Target}
    (spells : Spells (backend.name.toList ++ ':' :: list) target) :
    ∃ architectures, target = ⟨backend, none, architectures⟩ := by
  have named : Named backend.name.toList backend none := .plain
  generalize written : backend.name.toList ++ ':' :: list = segment at spells
  cases spells with
  | bare other =>
    have colon : ':' ∈ segment := by
      rw [← written]
      simp
    exact absurd colon other.colon_notMem
  | @listed front items _ _ architectures first other =>
    have cut := Text.cutAt_append first items
    rw [← written, Text.cutAt_append named.colon_notMem] at cut
    obtain ⟨rfl, -⟩ := Prod.mk.inj cut
    have compact : ∀ c ∈ backend.name.toList, isBlank c = false :=
      fun c member => (isWordChar_of_mem_backend member).not_isBlank
    rw [Text.trim_of_compact compact] at other
    obtain ⟨rfl, rfl⟩ := other.unique named
    exact ⟨architectures, rfl⟩

/-- The name of a backend lists it alone. -/
theorem parse_name (backend : Backend) : parse backend.name = .ok [⟨backend, none, []⟩] := by
  cases backend <;> rfl

/-- More than blanks and semicolons stands behind the first semicolon of an architecture. -/
def GoesOn (architecture : String) : Prop :=
  ∃ back ∈ (Text.cutAt ';' architecture.toList).2, ∃ c ∈ back, c ≠ ';' ∧ isBlank c = false

/-- The segments behind the name of a backend, a colon and an architecture: the first one begins with
the name and the colon, and there are more of them exactly if the architecture goes on. -/
theorem segments_colon (backend : Backend) (architecture : String) : ∃ list others,
    segments (backend.name.toList ++ ':' :: architecture.toList) =
        (backend.name.toList ++ ':' :: list) :: others ∧
      (others ≠ [] ↔ GoesOn architecture) := by
  have whole : ';' ∉ backend.name.toList ++ [':'] := by cases backend <;> decide
  have compact : ∀ c ∈ backend.name.toList ++ [':'], isBlank c = false := by
    intro c member
    rcases List.mem_append.mp member with inName | mark
    · exact (isWordChar_of_mem_backend inName).not_isBlank
    · rw [List.mem_singleton.mp mark]
      decide
  have cut := Text.cutAt_append_left whole architecture.toList
  -- Trimming leaves the name and the colon, so the first segment is never dropped.
  obtain ⟨list, first⟩ :=
    Text.prefix_trim_append (by simp) compact (Text.cutAt ';' architecture.toList).1
  refine ⟨list, (Text.cutAt ';' architecture.toList).2.elim [] segments, ?_, ?_⟩
  · rw [List.append_cons _ _ architecture.toList, List.append_cons _ _ list,
      segments_eq_cons (by rw [cut, ← first]; simp), cut, first]
  · unfold GoesOn
    cases (Text.cutAt ';' architecture.toList).2 with
    | none => simp
    | some back => exact segments_ne_nil_iff.trans (by simp)

/-- The targets behind the name of a backend, a colon and an architecture. -/
theorem Lists.of_colon (lists : Lists s!"{backend.name}:{architecture}" targets) :
    ∃ architectures others, targets = ⟨backend, none, architectures⟩ :: others ∧
      (∀ other ∈ others, other.backend ≠ backend) ∧ (others ≠ [] ↔ GoesOn architecture) := by
  have spelled : List.Forall₂ Spells
      (segments (backend.name.toList ++ ':' :: architecture.toList)) targets := by
    have written : (backend.name ++ ":" ++ architecture).toList =
        backend.name.toList ++ ':' :: architecture.toList := by
      simp
    rw [← written]
    exact lists.spelled
  obtain ⟨list, segments, isSegments, goesOn⟩ := segments_colon backend architecture
  rw [isSegments] at spelled
  obtain ⟨target, others, first, later, rfl⟩ := List.forall₂_cons_left_iff.mp spelled
  obtain ⟨architectures, rfl⟩ := first.of_colon
  have distinct := lists.distinct
  rw [List.map_cons, List.nodup_cons] at distinct
  refine ⟨architectures, others, rfl, ?_, ?_⟩
  · intro other member same
    exact distinct.1 (List.mem_map.mpr ⟨other, member, same⟩)
  · rw [← goesOn, ← List.length_pos_iff, ← List.length_pos_iff, later.length_eq]

end Written

section Derived

variable {arguments : List String} {environment : Environment} {defaults : Settings.Defaults}
  {derived warning : String}

/-- A platform from which the list of targets is written stands for one target of its backend, without
flavor, if that list is accepted at all, unless the architecture goes on behind a semicolon. Then the
targets that follow there are compiled for as well, and none of them has the platform's backend. -/
theorem targets_of_platform
    (resolved : Settings.resolve Table.builtin arguments environment defaults = .ok settings)
    (effectively : effective settings = .ok (derived, some warning)) :
    ∃ platform architecture? backend,
      settings.value? "platform" = .ok (some platform) ∧
      settings.value? "gpu-arch" = .ok architecture? ∧
      platformBackend? (folded platform) = some backend ∧
      ∀ targets, parse derived = .ok targets →
        ∃ architectures others, targets = ⟨backend, none, architectures⟩ :: others ∧
          (∀ other ∈ others, other.backend ≠ backend) ∧
          (others ≠ [] ↔ backend ≠ .omp ∧ ∃ architecture ∈ architecture?, GoesOn architecture) := by
  obtain ⟨platform, architecture?, isPlatform, isArchitecture, written⟩ :=
    exists_of_effective (Settings.answers_of_resolve Table.regular_builtin resolved) effectively
  obtain ⟨backend, known, form⟩ := exists_of_ofPlatform written
  refine ⟨platform, architecture?, backend, isPlatform, isArchitecture, known, ?_⟩
  intro targets read
  rcases form with ⟨unused, rfl⟩ | ⟨device, architecture, rfl, rfl⟩
  · obtain rfl := Except.ok.inj (read.symm.trans (parse_name backend))
    refine ⟨[], [], rfl, by simp, iff_of_false (not_not_intro rfl) ?_⟩
    rintro ⟨device, architecture, given, -⟩
    rcases unused with rfl | rfl
    · exact device rfl
    · contradiction
  · obtain ⟨architectures, others, rfl, apart, goesOn⟩ := (parse_eq_ok_iff.mp read).of_colon
    refine ⟨architectures, others, rfl, apart, goesOn.trans ?_⟩
    simp [device]

/-- An architecture that goes on, with blanks around the semicolon. -/
theorem targets_of_platform_blanks : ∃ settings warning targets,
    Settings.resolve Table.builtin
        ["--hipsycl-platform=ROCm", "--acpp-gpu-arch= gfx906 , gfx90a ; omp.accelerated"] []
        Settings.Defaults.empty = .ok settings ∧
      effective settings = .ok ("hip: gfx906 , gfx90a ; omp.accelerated", some warning) ∧
      parse "hip: gfx906 , gfx90a ; omp.accelerated" = .ok targets ∧
      ∃ architectures others, targets = ⟨.hip, none, architectures⟩ :: others ∧ others ≠ [] := by
  have runs : ∃ settings warning targets,
      Settings.resolve Table.builtin
          ["--hipsycl-platform=ROCm", "--acpp-gpu-arch= gfx906 , gfx90a ; omp.accelerated"] []
          Settings.Defaults.empty = .ok settings ∧
        effective settings = .ok ("hip: gfx906 , gfx90a ; omp.accelerated", some warning) ∧
        parse "hip: gfx906 , gfx90a ; omp.accelerated" = .ok targets ∧
        settings.value? "platform" = .ok (some "ROCm") ∧
        settings.value? "gpu-arch" = .ok (some " gfx906 , gfx90a ; omp.accelerated") :=
    ⟨_, _, _, rfl, rfl, rfl, rfl, rfl⟩
  obtain ⟨settings, warning, targets, resolved, effectively, read, isPlatform, isArchitecture⟩ := runs
  obtain ⟨platform, architecture?, backend, samePlatform, sameArchitecture, known, all⟩ :=
    targets_of_platform resolved effectively
  obtain rfl := Option.some.inj (Except.ok.inj (samePlatform.symm.trans isPlatform))
  obtain rfl := Except.ok.inj (sameArchitecture.symm.trans isArchitecture)
  obtain rfl : Backend.hip = backend := Option.some.inj known
  obtain ⟨architectures, others, listed, -, goesOn⟩ := all targets read
  have more : GoesOn " gfx906 , gfx90a ; omp.accelerated" :=
    ⟨" omp.accelerated".toList, rfl, 'o', by decide⟩
  exact ⟨settings, warning, targets, resolved, effectively, read, architectures, others, listed,
    goesOn.mpr ⟨by decide, _, rfl, more⟩⟩

/-- The platform names CUDA devices, and host processors are compiled for as well. -/
theorem targets_of_platform_semicolon : ∃ settings warning,
    Settings.resolve Table.builtin ["--acpp-platform=cuda", "--acpp-gpu-arch=sm_70;omp"] []
        Settings.Defaults.empty = .ok settings ∧
      effective settings = .ok ("cuda:sm_70;omp", some warning) ∧
      parse "cuda:sm_70;omp" = .ok [⟨.cuda, none, ["sm_70"]⟩, ⟨.omp, none, []⟩] :=
  ⟨_, _, rfl, rfl, rfl⟩

end Derived

end Offload.Target
