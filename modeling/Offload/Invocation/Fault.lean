import Offload.Target.Fault

/-! # Invocation faults

Every way in which an invocation ends without having compiled anything, by cause.
-/

namespace Offload.Invocation

/-- Why an invocation fails. -/
inductive Fault where
  | settings (cause : Settings.Fault)
  | target (cause : Target.Fault)
  /-- The compiler cannot be started. -/
  | cannotStart (program : String) (cause : Host.Fault)
deriving DecidableEq, Repr

/-- The fault in words. -/
def Fault.message : Fault → String
  | .settings cause => cause.message
  | .target cause => cause.message
  | .cannotStart program _ => s!"failed to execute host compiler '{program}'"

/-- The cause behind the fault, in words. -/
def Fault.cause? : Fault → Option String
  | .settings cause => cause.cause?
  | .target cause => cause.cause?
  | .cannotStart _ cause => some cause.message

/-- The line that ends a failed invocation: the fault and then the cause behind it. -/
def Fault.line (fault : Fault) : String :=
  "acpp error: fatal: " ++ ": ".intercalate (fault.message :: fault.cause?.toList)

end Offload.Invocation
