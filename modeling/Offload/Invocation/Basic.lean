import Offload.Command
import Offload.Course
import Offload.Invocation.Fault
import Offload.Report
import Offload.Settings.Resolution
import Offload.Usage

/-! # Invocations

What the driver does when it is started. The first argument that asks for help or for the report, or
that belongs to another implementation, decides alone; what stands after it is not looked at. With
no such argument the settings are resolved, targets are chosen and decided on, and the command that
compiles is planned. It is displayed if the settings ask for a dry run, and else handed on to be
executed. Nothing but warnings is seen before all of this has succeeded.
-/

namespace Offload

open Options

/-- What the driver is started with. -/
structure Invocation where
  /-- The name under which it is started. -/
  startedAs : String
  arguments : List String
  environment : Environment
  /-- The files among which it is started. -/
  files : Host.FileTree

namespace Invocation

/-- What an argument can ask for in place of a compilation. -/
inductive Request where
  | help
  | report
  /-- The argument belongs to another implementation. -/
  | foreign (argument : String)
deriving DecidableEq, Repr

/-- What an argument asks for. -/
def request? (argument : String) : Option Request :=
  if argument = Screening.helpFlag then some .help
  else if Screening.versionFlags.contains argument then some .report
  else if Screening.isForeign argument then some (.foreign argument)
  else none

/-- What an invocation comes to. -/
inductive Conclusion where
  /-- There is nothing left to do. -/
  | done (code : Int)
  /-- The command is to be executed, and its exit code is that of the driver. -/
  | execute (command : Command)
deriving DecidableEq, Repr

/-- The directories whose configuration files count. -/
def directories (invocation : Invocation) : Except Settings.Fault (List String) :=
  Settings.configDirectories Table.builtin invocation.arguments invocation.environment

/-- The settings of the invocation. -/
def settings (invocation : Invocation) : Except Settings.Fault Settings := do
  let defaults ← Settings.Defaults.load invocation.files (← invocation.directories)
  Settings.resolve Table.builtin invocation.arguments invocation.environment defaults

/-- Work on settings that is not seen. -/
def settled {α : Type} (found : Except Settings.Fault α) : Course Fault α :=
  .quietly (found.mapError .settings)

/-- Work on targets that is not seen. -/
def targeted {α : Type} (found : Except Target.Fault α) : Course Fault α :=
  .quietly (found.mapError .target)

/-- Print the usage text. -/
def printUsage (code : Int) : Course Fault Conclusion := do
  Course.write (Usage.text Table.builtin)
  return .done code

/-- Print the version and the settings. -/
def printReport (invocation : Invocation) : Course Fault Conclusion := do
  let settings ← settled invocation.settings
  Course.write (Report.text settings)
  return .done 0

/-- Choose the targets, decide on them, and plan the command. -/
def prepare (settings : Settings) : Course Fault (Target.Decision × Command) := do
  Course.warn (Screening.warnings settings.forwarded)
  let (given, platformWarning?) ← targeted (Target.effective settings)
  Course.warn platformWarning?.toList
  let targets ← targeted (Target.parse given)
  let decision ← targeted (Target.decide settings targets)
  Course.warn decision.warnings
  let command ← targeted (Command.plan settings decision)
  return (decision, command)

/-- Plan the compilation, and display the command if no more than that is asked for. -/
def compile (invocation : Invocation) : Course Fault Conclusion := do
  let settings ← settled invocation.settings
  let (_, command) ← prepare settings
  if ← settled (settings.isOn? Builtin.isDryrun.key) then
    Course.write (command.display ++ "\n")
    return .done 0
  else return .execute command

/-- What is done for the arguments, once it is known that there are some. -/
def obey (invocation : Invocation) : Course Fault Conclusion :=
  match invocation.arguments.findSome? request? with
  | some .help => printUsage 0
  | some .report => invocation.printReport
  | some (.foreign argument) => .quietly (.error (.settings (.foreignFlag argument)))
  | none => invocation.compile

/-- All of an invocation up to the execution of the command. -/
def run (invocation : Invocation) : Course Fault Conclusion := do
  Course.warn (Screening.formerNameWarning? invocation.startedAs).toList
  if invocation.arguments.isEmpty then printUsage (-1)
  else invocation.obey

end Invocation

end Offload
