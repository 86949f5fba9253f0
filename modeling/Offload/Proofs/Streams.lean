import Offload.Invocation.Transcript
import Offload.Proofs.Requests

/-! # What an invocation leaves on its streams

Warnings come from four stages, each of which may not be reached, and output is written once, after all
of them. `run_emits` says which warnings are given and what is written: nothing by an invocation that
fails, whichever stage it fails at, and else the usage text, the report, the planned command, or nothing
where this command is executed.
-/

namespace Offload.Invocation

open Options

section Description

/-- The settings that a compilation starts from: no argument asks for anything else, and the settings
are resolved. -/
def compiled? (invocation : Invocation) : Option Settings :=
  if invocation.arguments ≠ [] ∧ ∀ argument ∈ invocation.arguments, ¬ Asks argument then
    invocation.settings.toOption
  else none

/-- The decision that these settings lead to. -/
def decided? (settings : Settings) : Option Target.Decision := do
  let (given, _) ← (Target.effective settings).toOption
  let targets ← (Target.parse given).toOption
  (Target.decide settings targets).toOption

/-- The warnings of a compilation: about the arguments for the compiler, about a platform if targets
are chosen, and those of the decision if there is one. -/
def preparationMessages (settings : Settings) : List String :=
  Screening.warnings settings.forwarded ++
    ((Target.effective settings).toOption.elim [] fun chosen => chosen.2.toList) ++
    ((decided? settings).elim [] fun decision => decision.warnings)

/-- All warnings of an invocation. -/
def messages (invocation : Invocation) : List String :=
  (Screening.formerNameWarning? invocation.startedAs).toList ++
    invocation.compiled?.elim [] preparationMessages

/-- The command that the stages of an invocation plan. -/
def Plans (invocation : Invocation) (settings : Settings) (command : Command) : Prop :=
  invocation.compiled? = some settings ∧ ∃ decision, decided? settings = some decision ∧
    Command.plan settings decision = .ok command

/-- What is written by an invocation that comes to a conclusion. -/
inductive Shows (invocation : Invocation) : Conclusion → Option String → Prop where
  | usage (none : invocation.arguments = []) :
    Shows invocation (.done (-1)) (some (Usage.text Table.builtin))
  | help (first : invocation.arguments.findSome? request? = some .help) :
    Shows invocation (.done 0) (some (Usage.text Table.builtin))
  | report {settings : Settings} (first : invocation.arguments.findSome? request? = some .report)
    (resolved : invocation.settings = .ok settings) :
    Shows invocation (.done 0) (some (Report.text settings))
  | display {settings : Settings} {command : Command} (plans : Plans invocation settings command)
    (dry : settings.isOn? Builtin.isDryrun.key = .ok true) :
    Shows invocation (.done 0) (some (command.display ++ "\n"))
  | execution {settings : Settings} {command : Command} (plans : Plans invocation settings command)
    (real : settings.isOn? Builtin.isDryrun.key = .ok false) :
    Shows invocation (.execute command) none

/-- A course gives these warnings and then writes what its conclusion shows; a fault shows nothing. -/
def Emits (course : Course Fault Conclusion) (messages : List String)
    (shows : Conclusion → Option String → Prop) : Prop :=
  ∃ shown? : Option String,
    course.events = messages.map .warning ++ shown?.toList.map .output ∧
    (∀ fault, course.result = .error fault → shown? = none) ∧
    ∀ conclusion, course.result = .ok conclusion → shows conclusion shown?

end Description

section Preparation

variable {settings : Settings}

theorem targeted_events {α : Type} (found : Except Target.Fault α) : (targeted found).events = [] := rfl

theorem targeted_toOption {α : Type} (found : Except Target.Fault α) :
    (targeted found).result.toOption = found.toOption := by
  cases found <;> rfl

theorem warn_events {ε : Type} (messages : List String) :
    (Course.warn messages : Course ε Unit).events = messages.map .warning := rfl

theorem warn_toOption {ε : Type} (messages : List String) :
    (Course.warn messages : Course ε Unit).result.toOption = some () := rfl

/-- The warnings that are given while a command is prepared, however far that gets. -/
theorem prepare_events (settings : Settings) :
    (prepare settings).events = (preparationMessages settings).map .warning := by
  have silent (found : Option Command) : (found.elim [] fun _ => ([] : List Course.Event)) = [] := by
    cases found <;> rfl
  unfold prepare preparationMessages decided?
  simp only [Course.bind_events, targeted_events, targeted_toOption, warn_events, warn_toOption,
    Course.pure_events, Option.elim_some, List.nil_append, silent, List.append_nil]
  cases (Target.effective settings).toOption with
  | none => simp
  | some chosen =>
    obtain ⟨given, platformWarning?⟩ := chosen
    cases parsed : (Target.parse given).toOption with
    | none => simp [parsed]
    | some targets => cases decided : (Target.decide settings targets).toOption <;> simp [parsed, decided]

theorem decided?_of_prepare {decision : Target.Decision} {command : Command}
    (prepared : (prepare settings).result = .ok (decision, command)) :
    decided? settings = some decision := by
  obtain ⟨given, platformWarning?, targets, chosen, parsed, decided, -⟩ := stages_of_prepare prepared
  unfold decided?
  rw [chosen]
  change (Target.parse given).toOption.bind _ = _
  rw [parsed]
  change (Target.decide settings targets).toOption = _
  rw [decided]
  rfl

end Preparation

section Emission

variable {α : Type} {first : Course Fault α} {next : α → Course Fault Conclusion}
  {course : Course Fault Conclusion} {given later : List String}
  {shows : Conclusion → Option String → Prop}

theorem emits_of_error (events : course.events = given.map .warning) {fault : Fault}
    (failed : course.result = .error fault) : Emits course given shows := by
  refine ⟨none, by simp [events], fun _ _ => rfl, ?_⟩
  intro conclusion done
  rw [failed] at done
  contradiction

/-- A step that fails ends the course with its own warnings. -/
theorem emits_bind_of_error (events : first.events = given.map .warning) {fault : Fault}
    (failed : first.result = .error fault) : Emits (first >>= next) given shows := by
  apply emits_of_error
  · rw [Course.bind_events_of_error failed, events]
  · exact Course.bind_result_of_error failed next

/-- The warnings of a step that succeeds stand before those of what follows it. -/
theorem Emits.bind {value : α} (emits : Emits (next value) later shows)
    (events : first.events = given.map .warning) (done : first.result = .ok value) :
    Emits (first >>= next) (given ++ later) shows := by
  obtain ⟨shown?, rest, failed, concluded⟩ := emits
  refine ⟨shown?, ?_, ?_, ?_⟩
  · rw [Course.bind_events_of_ok done, events, rest, List.map_append, List.append_assoc]
  · rwa [Course.bind_result_of_ok done]
  · rwa [Course.bind_result_of_ok done]

theorem emits_settled_of_error {found : Except Settings.Fault α} {fault : Settings.Fault}
    (failed : found = .error fault) : Emits (settled found >>= next) [] shows := by
  subst failed
  exact emits_bind_of_error rfl rfl

/-- Settings are looked up without being seen. -/
theorem Emits.settled {found : Except Settings.Fault α} {value : α}
    (emits : Emits (next value) later shows) (done : found = .ok value) :
    Emits (settled found >>= next) later shows := by
  subst done
  exact emits

theorem emits_write {conclusion : Conclusion} {text : String} (shown : shows conclusion (some text)) :
    Emits (Course.write text >>= fun _ => pure conclusion) [] shows := by
  refine ⟨some text, rfl, ?_, ?_⟩
  · intro fault failed
    contradiction
  · rintro _ ⟨⟩
    exact shown

theorem emits_pure {conclusion : Conclusion} (shown : shows conclusion none) :
    Emits (pure conclusion) [] shows := by
  refine ⟨none, rfl, fun _ _ => rfl, ?_⟩
  rintro _ ⟨⟩
  exact shown

end Emission

section Runs

variable {invocation : Invocation}

/-- A compilation warns, and then displays its command or leaves it to be executed. -/
theorem emits_compile {settings : Settings} (compiled : invocation.compiled? = some settings)
    (resolved : invocation.settings = .ok settings) :
    Emits invocation.compile (preparationMessages settings) (Shows invocation) := by
  have warned := prepare_events settings
  refine Emits.settled ?_ resolved
  cases prepared : (prepare settings).result with
  | error fault => exact emits_bind_of_error warned prepared
  | ok planned =>
    obtain ⟨decision, command⟩ := planned
    have plans : Plans invocation settings command :=
      ⟨compiled, decision, decided?_of_prepare prepared, plan_of_prepare prepared⟩
    rw [← List.append_nil (preparationMessages settings)]
    refine Emits.bind ?_ warned prepared
    cases switch : settings.isOn? Builtin.isDryrun.key with
    | error fault => exact emits_settled_of_error rfl
    | ok on =>
      refine Emits.settled ?_ rfl
      cases on with
      | true => exact emits_write (.display plans switch)
      | false => exact emits_pure (.execution plans switch)

theorem compiled?_of_request {request : Request}
    (found : invocation.arguments.findSome? request? = some request) :
    invocation.compiled? = none := by
  apply if_neg
  rintro ⟨-, silent⟩
  rw [findSome?_request?_eq_none_iff.mpr silent] at found
  contradiction

theorem emits_obey (given : invocation.arguments ≠ []) :
    Emits invocation.obey (invocation.compiled?.elim [] preparationMessages) (Shows invocation) := by
  unfold obey
  cases found : invocation.arguments.findSome? request? with
  | none =>
    have compiled : invocation.compiled? = invocation.settings.toOption :=
      if_pos ⟨given, findSome?_request?_eq_none_iff.mp found⟩
    cases resolved : invocation.settings with
    | error fault =>
      rw [compiled, resolved]
      exact emits_settled_of_error resolved
    | ok settings =>
      rw [resolved] at compiled
      rw [compiled]
      exact emits_compile compiled resolved
  | some request =>
    rw [compiled?_of_request found]
    cases request with
    | help => exact emits_write (.help found)
    | foreign argument => exact emits_of_error rfl rfl
    | report =>
      cases resolved : invocation.settings with
      | error fault => exact emits_settled_of_error resolved
      | ok settings => exact Emits.settled (emits_write (.report found resolved)) resolved

theorem emits_run (invocation : Invocation) :
    Emits invocation.run invocation.messages (Shows invocation) := by
  refine Emits.bind ?_ rfl rfl
  by_cases none : invocation.arguments = []
  · have compiled : invocation.compiled? = .none := if_neg fun reached => reached.1 none
    rw [compiled, if_pos (List.isEmpty_iff.mpr none)]
    exact emits_write (.usage none)
  · rw [if_neg (mt List.isEmpty_iff.mp none)]
    exact emits_obey none

/-- What a course that emits something leaves as text. -/
theorem streams_of_events {course : Course Fault Conclusion} {given : List String}
    {shown? : Option String}
    (events : course.events = given.map .warning ++ shown?.toList.map .output) :
    course.output = shown?.getD "" ∧ course.warnings = given := by
  unfold Course.output Course.warnings
  rw [events]
  cases shown? <;> simp [List.filterMap_map]

theorem transcript_of_error {fault : Fault} (failed : invocation.run.result = .error fault)
    (block : Host.EnvironmentBlock) : invocation.transcript block =
      ⟨invocation.run.output,
        String.join (invocation.run.warnings.map warningLine) ++ fault.line ++ "\n", failureCode⟩ := by
  have ended : invocation.run.result.bind (conclude invocation.files block) = .error fault := by
    rw [failed]
    rfl
  unfold transcript
  dsimp only
  rw [ended]

theorem transcript_of_ok {conclusion : Conclusion} (done : invocation.run.result = .ok conclusion)
    {block : Host.EnvironmentBlock} {code : Int}
    (executed : conclude invocation.files block conclusion = .ok code) : invocation.transcript block =
      ⟨invocation.run.output, String.join (invocation.run.warnings.map warningLine), code⟩ := by
  have ended : invocation.run.result.bind (conclude invocation.files block) = .ok code := by
    rw [done]
    exact executed
  unfold transcript
  dsimp only
  rw [ended]

/-- Of an invocation that fails nothing is left but its warnings and the line of its fault, whatever
there is to be executed. One that succeeds writes exactly what it comes to, after its warnings. -/
theorem run_emits (invocation : Invocation) : ∃ shown? : Option String,
    invocation.run.events = invocation.messages.map .warning ++ shown?.toList.map .output ∧
    (∀ fault, invocation.run.result = .error fault → shown? = none ∧
      ∀ block, invocation.transcript block =
        ⟨"", String.join (invocation.messages.map ("acpp warning: " ++ · ++ "\n")) ++ fault.line ++ "\n",
          failureCode⟩) ∧
    ∀ conclusion, invocation.run.result = .ok conclusion → Shows invocation conclusion shown? ∧
      ∀ block code, conclude invocation.files block conclusion = .ok code →
        invocation.transcript block =
          ⟨shown?.getD "", String.join (invocation.messages.map ("acpp warning: " ++ · ++ "\n")), code⟩ := by
  obtain ⟨shown?, events, failed, concluded⟩ := emits_run invocation
  obtain ⟨output, warnings⟩ := streams_of_events events
  refine ⟨shown?, events, ?_, ?_⟩
  · intro fault done
    obtain rfl := failed fault done
    refine ⟨rfl, fun block => ?_⟩
    rw [transcript_of_error done, output, warnings]
    rfl
  · intro conclusion done
    refine ⟨concluded conclusion done, fun block code executed => ?_⟩
    rw [transcript_of_ok done executed, output, warnings]
    rfl

end Runs

end Offload.Invocation
