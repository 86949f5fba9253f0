import Offload.Settings.Fault

/-! # Settings

The effective options of one invocation: for every option its value and where it came from, and the
arguments, those the driver consumed and those it hands to the compiler. The accessors fail by cause
when an option is asked for that the table does not hold, or in the wrong kind.
-/

namespace Offload

namespace Settings

/-- Where a value came from. -/
inductive Source where
  | commandLine
  | environment
  | configFile
  | builtin
deriving DecidableEq, Repr

/-- The source as it is displayed. -/
def Source.name : Source → String
  | .commandLine => "command line"
  | .environment => "environment"
  | .configFile => "config file"
  | .builtin => "default"

/-- The value of an option. -/
inductive Value where
  | text (content : String)
  | switch (on : Bool)
deriving DecidableEq, Repr

/-- The value as it is displayed. -/
def Value.display : Value → String
  | .text content => content
  | .switch on => if on then "true" else "false"

/-- Whether the text given for a switch turns it on: everything does except `0`, `off` and `false`
in any case. -/
def isOn (text : String) : Bool :=
  let folded := String.ofList (text.toList.map Char.toLower)
  !(folded == "0" || folded == "off" || folded == "false")

/-- The value that a text is for an option. -/
def Value.ofText (option : Options.Entry) (text : String) : Value :=
  if option.isSwitch then .switch (isOn text) else .text text

/-- A value and where it came from. -/
structure Resolved where
  value : Value
  source : Source
deriving DecidableEq, Repr

/-- An option and its effective value, if it has one. -/
structure Setting where
  option : Options.Entry
  resolved? : Option Resolved
deriving DecidableEq, Repr

end Settings

/-- The effective options of one invocation and its arguments. -/
structure Settings where
  /-- Every option, in the order of the table. -/
  list : List Settings.Setting
  /-- The arguments that the driver consumed. -/
  consumed : List String
  /-- The arguments for the compiler. -/
  forwarded : List String
deriving DecidableEq, Repr

namespace Settings

/-- The setting of the option with this key. -/
def entry (settings : Settings) (key : String) : Except Fault Setting :=
  match settings.list.find? (·.option.key == key) with
  | some setting => .ok setting
  | none => .error (.unknownOption key)

/-- The text of an option that takes a value. -/
def value (settings : Settings) (key : String) : Except Fault String := do
  let setting ← settings.entry key
  match setting.resolved? with
  | some ⟨.text content, _⟩ => return content
  | some ⟨.switch _, _⟩ => .error (.switchRead key)
  | none => .error (.notSet setting.option)

/-- The text of an option that takes a value, if anything sets it. -/
def value? (settings : Settings) (key : String) : Except Fault (Option String) :=
  match settings.value key with
  | .ok content => .ok (some content)
  | .error (.notSet _) => .ok none
  | .error fault => .error fault

/-- Whether a switch is on; one that nothing sets is off. -/
def isOn? (settings : Settings) (key : String) : Except Fault Bool := do
  let setting ← settings.entry key
  match setting.resolved? with
  | some ⟨.switch on, _⟩ => return on
  | _ => return false

/-- Where the value of an option came from. -/
def source? (settings : Settings) (key : String) : Except Fault (Option Source) := do
  let setting ← settings.entry key
  return setting.resolved?.map (·.source)

end Settings

end Offload
