import Offload.Host.Launch
import Offload.Invocation.Basic

/-! # Transcripts

What is left of an invocation when it has ended: the text on both output streams and the exit code.
The command that an invocation comes to is executed among the same files.
-/

namespace Offload.Invocation

/-- The text on both streams and the exit code. -/
structure Transcript where
  output : String
  errors : String
  code : Int
deriving DecidableEq, Repr

/-- The exit code of a failed invocation. -/
def failureCode : Int := -1

/-- A warning as it is printed. -/
def warningLine (message : String) : String :=
  s!"acpp warning: {message}\n"

/-- Execute a command and find its exit code. -/
def execute (files : Host.FileTree) (block : Host.EnvironmentBlock) (command : Command) :
    Except Fault Int :=
  match files.launch block command.program command.arguments with
  | .ok ending => .ok ending.code
  | .error cause => .error (.cannotStart command.program cause)

/-- Carry out what an invocation comes to. -/
def conclude (files : Host.FileTree) (block : Host.EnvironmentBlock) :
    Conclusion → Except Fault Int
  | .done code => .ok code
  | .execute command => execute files block command

/-- Run an invocation to its end. The command is started with the entries of `block`. -/
def transcript (invocation : Invocation) (block : Host.EnvironmentBlock) : Transcript :=
  let course := invocation.run
  let warnings := String.join (course.warnings.map warningLine)
  match course.result.bind (conclude invocation.files block) with
  | .ok code => ⟨course.output, warnings, code⟩
  | .error fault => ⟨course.output, warnings ++ fault.line ++ "\n", failureCode⟩

/-- The status that the system keeps of an exit code. -/
def Transcript.status (transcript : Transcript) : Nat :=
  (transcript.code % 256).toNat

end Offload.Invocation
