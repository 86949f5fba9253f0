import Offload.Invocation.Basic
import Offload.Proofs.Command
import Offload.Proofs.Settings.Arguments

/-! # Requests in place of a compilation

An argument that asks for help or for the report, or that belongs to another implementation, is known
by itself (`Asks`), and the first one of a list decides on the whole invocation: what stands behind it
is not looked at, and no target is chosen (`run_by_first_request`). Where there is none the driver
compiles, and so none of the arguments that it hands on is one either.
-/

namespace Offload.Invocation

open Options

section Description

/-- The flags that ask for the report. -/
def reportFlags : List String := ["--acpp-version", "--opensycl-version", "--hipsycl-version"]

/-- The argument asks for something else than a compilation by this driver. -/
def Asks (argument : String) : Prop :=
  argument = "--help" ∨ argument ∈ reportFlags ∨ "-fsycl".toList <+: argument.toList

instance (argument : String) : Decidable (Asks argument) :=
  inferInstanceAs (Decidable (_ ∨ _ ∨ _))

/-- What is seen before the arguments are looked at. -/
def opening (invocation : Invocation) : List Course.Event :=
  (Screening.formerNameWarning? invocation.startedAs).toList.map .warning

/-- The course of an invocation that is asked for something else than a compilation. -/
def answer (invocation : Invocation) : Request → Course Fault Conclusion
  | .help => ⟨invocation.opening ++ [.output (Usage.text Table.builtin)], .ok (.done 0)⟩
  | .report =>
    match invocation.settings with
    | .ok settings => ⟨invocation.opening ++ [.output (Report.text settings)], .ok (.done 0)⟩
    | .error fault => ⟨invocation.opening, .error (.settings fault)⟩
  | .foreign argument => ⟨invocation.opening, .error (.settings (.foreignFlag argument))⟩

end Description

section Requests

variable {argument : String}

theorem isForeign_iff : Screening.isForeign argument = true ↔ "-fsycl".toList <+: argument.toList := by
  unfold Screening.isForeign Screening.foreignBeginnings
  rw [List.any_cons, List.any_nil, Bool.or_false, Text.beginsWith_iff]

/-- What an argument asks for, told from its text. -/
theorem request?_eq (argument : String) : request? argument =
    if argument = "--help" then some .help
    else if argument ∈ reportFlags then some .report
    else if "-fsycl".toList <+: argument.toList then some (.foreign argument)
    else none := by
  unfold request?
  simp only [List.contains_iff_mem, isForeign_iff]
  rfl

theorem request?_of_mem_reportFlags (member : argument ∈ reportFlags) :
    request? argument = some .report := by
  rw [request?_eq, if_neg, if_pos member]
  rintro rfl
  exact absurd member (by decide)

theorem request?_of_foreign (foreign : "-fsycl".toList <+: argument.toList) :
    request? argument = some (.foreign argument) := by
  rw [request?_eq, if_neg, if_neg, if_pos foreign]
  · intro report
    have apart : ∀ flag ∈ reportFlags, ¬ "-fsycl".toList <+: flag.toList := by decide
    exact apart argument report foreign
  · rintro rfl
    exact absurd foreign (by decide)

theorem request?_eq_none_iff : request? argument = none ↔ ¬ Asks argument := by
  constructor
  · rintro silent (rfl | report | foreign)
    · contradiction
    · rw [request?_of_mem_reportFlags report] at silent
      contradiction
    · rw [request?_of_foreign foreign] at silent
      contradiction
  · intro silent
    obtain ⟨notHelp, others⟩ := not_or.mp silent
    obtain ⟨notReport, notForeign⟩ := not_or.mp others
    rw [request?_eq, if_neg notHelp, if_neg notReport, if_neg notForeign]

theorem findSome?_request?_eq_none_iff {arguments : List String} :
    arguments.findSome? request? = none ↔ ∀ argument ∈ arguments, ¬ Asks argument := by
  simp only [List.findSome?_eq_none_iff, request?_eq_none_iff]

theorem findSome?_request?_of_first {arguments front back : List String} {request : Request}
    (split : arguments = front ++ argument :: back) (silent : ∀ earlier ∈ front, ¬ Asks earlier)
    (asked : request? argument = some request) : arguments.findSome? request? = some request :=
  List.findSome?_eq_some_iff.mpr ⟨front, argument, back, split, asked,
    fun earlier member => request?_eq_none_iff.mpr (silent earlier member)⟩

end Requests

section Runs

variable {invocation : Invocation}

theorem run_eq_obey (given : invocation.arguments ≠ []) :
    invocation.run = ⟨invocation.opening ++ invocation.obey.events, invocation.obey.result⟩ := by
  have some : ¬ invocation.arguments.isEmpty = true := fun none => given (List.isEmpty_iff.mp none)
  unfold run
  rw [if_neg some]
  rfl

theorem run_of_request (given : invocation.arguments ≠ []) {request : Request}
    (found : invocation.arguments.findSome? request? = some request) :
    invocation.run = invocation.answer request := by
  rw [run_eq_obey given]
  unfold obey
  rw [found]
  cases request with
  | help => rfl
  | foreign argument => exact congrArg (Course.mk · _) (List.append_nil _)
  | report =>
    unfold printReport settled answer
    cases invocation.settings with
    | ok settings => rfl
    | error fault => exact congrArg (Course.mk · _) (List.append_nil _)

/-- An invocation that fails by its targets or executes a command was asked for nothing else. -/
theorem silent_of_run (given : invocation.arguments ≠ [])
    (reached : (∃ fault, invocation.run.result = .error (.target fault)) ∨
      ∃ command, invocation.run.result = .ok (.execute command)) :
    ∀ argument ∈ invocation.arguments, ¬ Asks argument := by
  rw [← findSome?_request?_eq_none_iff]
  cases found : invocation.arguments.findSome? request? with
  | none => rfl
  | some request =>
    rw [run_of_request given found] at reached
    cases request with
    | help | foreign argument => simp [answer] at reached
    | report => cases settings : invocation.settings <;> simp [answer, settings] at reached

/-- A command is prepared where every stage succeeds. -/
theorem stages_of_prepare {settings : Settings} {decision : Target.Decision} {command : Command}
    (prepared : (prepare settings).result = .ok (decision, command)) :
    ∃ given platformWarning? targets, Target.effective settings = .ok (given, platformWarning?) ∧
      Target.parse given = .ok targets ∧ Target.decide settings targets = .ok decision ∧
      Command.plan settings decision = .ok command := by
  unfold prepare at prepared
  simp only [Course.bind_result] at prepared
  obtain ⟨_, -, prepared⟩ := Except.bind_eq_ok_iff.mp prepared
  obtain ⟨⟨given, platformWarning?⟩, chosen, prepared⟩ := Except.bind_eq_ok_iff.mp prepared
  obtain ⟨_, -, prepared⟩ := Except.bind_eq_ok_iff.mp prepared
  obtain ⟨targets, parsed, prepared⟩ := Except.bind_eq_ok_iff.mp prepared
  obtain ⟨decided, settled, prepared⟩ := Except.bind_eq_ok_iff.mp prepared
  obtain ⟨_, -, prepared⟩ := Except.bind_eq_ok_iff.mp prepared
  obtain ⟨planned, done, prepared⟩ := Except.bind_eq_ok_iff.mp prepared
  obtain ⟨rfl, rfl⟩ := Prod.mk.inj (Except.ok.inj prepared)
  exact ⟨given, platformWarning?, targets, Except.mapError_eq_ok_iff.mp chosen,
    Except.mapError_eq_ok_iff.mp parsed, Except.mapError_eq_ok_iff.mp settled,
    Except.mapError_eq_ok_iff.mp done⟩

theorem plan_of_prepare {settings : Settings} {decision : Target.Decision} {command : Command}
    (prepared : (prepare settings).result = .ok (decision, command)) :
    Command.plan settings decision = .ok command := by
  obtain ⟨_, _, _, -, -, -, planned⟩ := stages_of_prepare prepared
  exact planned

theorem forwarded_of_settings {settings : Settings} (resolved : invocation.settings = .ok settings) :
    settings.forwarded = Settings.forwardedArguments Table.builtin invocation.arguments := by
  obtain ⟨directories, -, resolved⟩ := Except.bind_eq_ok_iff.mp resolved
  obtain ⟨defaults, -, resolved⟩ := Except.bind_eq_ok_iff.mp resolved
  obtain ⟨values, -, resolved⟩ := Except.bind_eq_ok_iff.mp resolved
  obtain rfl := Except.ok.inj resolved
  rfl

/-- The first argument that asks for something else than a compilation decides on the invocation,
whatever stands behind it. Targets are chosen only where there is none, and then none is among the
arguments that are handed on in the command. -/
theorem run_by_first_request (given : invocation.arguments ≠ []) :
    (∀ front argument back, invocation.arguments = front ++ argument :: back →
      (∀ earlier ∈ front, ¬ Asks earlier) →
      (argument = "--help" → invocation.run =
        ⟨invocation.opening ++ [.output (Usage.text Table.builtin)], .ok (.done 0)⟩) ∧
      (argument ∈ reportFlags → invocation.run = match invocation.settings with
        | .ok settings =>
          ⟨invocation.opening ++ [.output (Report.text settings)], .ok (.done 0)⟩
        | .error fault => ⟨invocation.opening, .error (.settings fault)⟩) ∧
      ("-fsycl".toList <+: argument.toList → invocation.run =
        ⟨invocation.opening, .error (.settings (.foreignFlag argument))⟩)) ∧
    ((∃ fault, invocation.run.result = .error (.target fault)) ∨
        (∃ command, invocation.run.result = .ok (.execute command)) →
      ∀ argument ∈ invocation.arguments, ¬ Asks argument) ∧
    ((∀ argument ∈ invocation.arguments, ¬ Asks argument) →
      invocation.run = ⟨invocation.opening ++ invocation.compile.events, invocation.compile.result⟩ ∧
      ∀ settings decision command, invocation.settings = .ok settings →
        (prepare settings).result = .ok (decision, command) →
        ∃ front back, command.arguments = front ++ settings.forwarded ++ back ∧
          ∀ argument ∈ settings.forwarded, ¬ Asks argument) := by
  refine ⟨?_, silent_of_run given, ?_⟩
  · intro front argument back split silent
    refine ⟨?_, ?_, ?_⟩
    · rintro rfl
      exact run_of_request given (findSome?_request?_of_first split silent rfl)
    · intro report
      have asked := request?_of_mem_reportFlags report
      exact run_of_request given (findSome?_request?_of_first split silent asked)
    · intro foreign
      have asked := request?_of_foreign foreign
      exact run_of_request given (findSome?_request?_of_first split silent asked)
  · intro silent
    constructor
    · rw [run_eq_obey given]
      unfold obey
      rw [findSome?_request?_eq_none_iff.mpr silent]
    · intro settings decision command resolved prepared
      obtain ⟨front, back, -, -, arguments⟩ := Command.exists_of_plan (plan_of_prepare prepared)
      refine ⟨front, back, arguments, ?_⟩
      intro argument forwarded
      rw [forwarded_of_settings resolved] at forwarded
      exact silent argument (List.mem_of_mem_filter forwarded)

/-- Help behind an option that lacks its value, the report before help, a flag of another implementation
before both, and a compilation with flags that only look like these. -/
theorem run_by_first_request_mixed :
    Invocation.run ⟨"syclcc", ["--acpp-targets", "--help", "-fsycl"], [], ⟨.directory [], []⟩⟩ =
      ⟨[.warning "syclcc is deprecated; please use acpp instead.",
        .output (Usage.text Table.builtin)], .ok (.done 0)⟩ ∧
    Invocation.run ⟨"acpp", ["--hipsycl-version", "--acpp-targets", "--help"], [],
        ⟨.directory [], []⟩⟩ =
      ⟨[], .error (.settings (.missingValue "--acpp-targets"))⟩ ∧
    Invocation.run ⟨"acpp", ["-O2", "-fsycl-targets=x", "--acpp-version", "--help"], [],
        ⟨.directory [], []⟩⟩ =
      ⟨[], .error (.settings (.foreignFlag "-fsycl-targets=x"))⟩ ∧
    ∃ settings decision command,
      Invocation.settings ⟨"acpp", ["--acpp-cpu-cxx=g++", "--acpp-targets=omp", "--helper",
        "--acpp-version=1"], [], ⟨.directory [], []⟩⟩ = .ok settings ∧
      (prepare settings).result = .ok (decision, command) ∧
      command.arguments = ["--helper", "--acpp-version=1"] ∧
      ∀ argument ∈ settings.forwarded, ¬ Asks argument := by
  refine ⟨?_, ?_, ?_, ?_⟩
  · obtain ⟨first, -, -⟩ := @run_by_first_request
      ⟨"syclcc", ["--acpp-targets", "--help", "-fsycl"], [], ⟨.directory [], []⟩⟩ (by simp)
    exact (first ["--acpp-targets"] "--help" ["-fsycl"] rfl (by decide)).1 rfl
  · obtain ⟨first, -, -⟩ := @run_by_first_request
      ⟨"acpp", ["--hipsycl-version", "--acpp-targets", "--help"], [], ⟨.directory [], []⟩⟩ (by simp)
    exact (first [] "--hipsycl-version" _ rfl (by decide)).2.1 (by decide)
  · obtain ⟨first, -, -⟩ := @run_by_first_request
      ⟨"acpp", ["-O2", "-fsycl-targets=x", "--acpp-version", "--help"], [], ⟨.directory [], []⟩⟩
      (by simp)
    exact (first ["-O2"] "-fsycl-targets=x" _ rfl (by decide)).2.2 (by decide)
  · obtain ⟨settings, decision, command, resolved, prepared, arguments⟩ :
        ∃ settings decision command,
          Invocation.settings ⟨"acpp", ["--acpp-cpu-cxx=g++", "--acpp-targets=omp", "--helper",
            "--acpp-version=1"], [], ⟨.directory [], []⟩⟩ = .ok settings ∧
          (prepare settings).result = .ok (decision, command) ∧
          command.arguments = ["--helper", "--acpp-version=1"] := ⟨_, _, _, rfl, rfl, rfl⟩
    obtain ⟨-, -, others⟩ := @run_by_first_request ⟨"acpp", ["--acpp-cpu-cxx=g++",
      "--acpp-targets=omp", "--helper", "--acpp-version=1"], [], ⟨.directory [], []⟩⟩ (by simp)
    obtain ⟨-, compiled⟩ := others (by decide)
    obtain ⟨front, back, -, silent⟩ := compiled settings decision command resolved prepared
    exact ⟨settings, decision, command, resolved, prepared, arguments, silent⟩

end Runs

end Offload.Invocation
