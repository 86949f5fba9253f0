import Offload.Screening
import Offload.Target.Decision
import Offload.Text.ShellWord

/-! # The command that compiles

One decision comes to one command: the chosen compiler, the flags of every variant for compiling,
the arguments that were handed on, and the flags of every variant for linking. The first group is
left out where nothing is compiled and the last where the compiler stops before linking.
-/

namespace Offload

open Target

/-- A program and its arguments. -/
structure Command where
  program : String
  arguments : List String
deriving DecidableEq, Repr

namespace Command

/-- The command as it is displayed. -/
def display (command : Command) : String :=
  String.ofList (Text.ShellWord.display
    (command.program.toList :: command.arguments.map String.toList))

/-- The arguments that stop the compiler before it links. -/
def stoppingFlags : List String := ["-c", "-S", "-E"]

/-- Whether the compiler stops before it links. -/
def stopsBeforeLinking (forwarded : List String) : Bool :=
  forwarded.any stoppingFlags.contains

/-- The flags of all variants in order. -/
def collectFlags (flags : Variant → Except Fault (List String)) (variants : List Variant) :
    Except Fault (List String) := do
  return (← variants.mapM flags).flatten

/-- The command that a decision comes to. -/
def plan (settings : Settings) (decision : Decision) : Except Fault Command := do
  let compiling ←
    if Screening.linksOnly settings.forwarded then pure []
    else collectFlags (Variant.hostPassFlags settings) decision.variants
  let linking ←
    if stopsBeforeLinking settings.forwarded then pure []
    else collectFlags (Variant.linkFlags settings) decision.variants
  return ⟨decision.hostCompiler, compiling ++ settings.forwarded ++ linking⟩

end Command

end Offload
