import Offload.Proofs.Settings.Arguments

/-! # Settings that answer

Settings that a regular table was resolved to hold every option of the table, with a value of its own
kind: an option that takes a value has a text, a switch is on or off, whichever source the value comes
from (`fits_choose`). So no accessor fails that is asked for an option of the table in its own kind,
and an option with a default has a value (`answers_of_resolve`).
-/

namespace Offload.Settings

open Options

/-- The value is of the kind that the option takes. -/
def Value.Fits (option : Entry) : Value → Prop
  | .text _ => option.isSwitch = false
  | .switch _ => option.isSwitch = true

/-- Every option of the table is there, with a value of its own kind if it has one. A default is
enough for it to have one. -/
structure Answers (table : Table) (settings : Settings) : Prop where
  exists_entry : ∀ option ∈ table, ∃ resolved?, settings.entry option.key = .ok ⟨option, resolved?⟩ ∧
    (∀ resolved ∈ resolved?, resolved.value.Fits option) ∧
    (option.default?.isSome → resolved?.isSome)

section Sources

variable {table : Table} {option : Entry}

theorem Value.fits_ofText (text : String) : (Value.ofText option text).Fits option := by
  unfold Value.ofText
  cases kind : option.isSwitch with
  | true => exact kind
  | false => exact kind

theorem fits_given {argument : String} (named : option.NamedBy argument)
    (complete : ¬ LacksValue option argument) : (given option argument).Fits option := by
  unfold given
  cases value : (Spelling.cut argument).2 with
  | some text => exact Value.fits_ofText text
  | none =>
    change option.isSwitch = true
    by_contra valued
    exact complete ⟨named, Bool.eq_false_iff.mpr valued, Spelling.cut_snd_eq_none_iff.mp value⟩

/-- What the command line gives to an option is of its kind, because a flag without the value that it
needs is refused. -/
theorem fits_of_lookup (regular : table.Regular) (member : option ∈ table)
    {arguments : List String} {values : Dictionary Value}
    (done : commandLineValues table (consumedArguments table arguments) = .ok values) {value : Value}
    (found : values.lookup? option.key = some value) : value.Fits option := by
  obtain ⟨tail, flag⟩ := regular.exists_flag member
  rw [lookup_commandLineValues regular member flag done] at found
  obtain ⟨argument, last, rfl⟩ := Option.map_eq_some_iff.mp found
  obtain ⟨inside, named⟩ := List.mem_filter.mp (List.mem_of_getLast? last)
  rw [commandLineValues_consumed] at done
  obtain ⟨gift, accepted⟩ := (assign_eq_ok done).1 argument inside
  apply fits_given ⟨tail, flag, of_decide_eq_true named⟩
  intro lacks
  rw [assignment_of_lacksValue regular.flagged member lacks] at accepted
  contradiction

theorem exists_text_of_lookup (regular : table.Regular) (member : option ∈ table)
    (valued : option.isSwitch = false) {arguments : List String} {values : Dictionary Value}
    (done : commandLineValues table (consumedArguments table arguments) = .ok values) {value : Value}
    (found : values.lookup? option.key = some value) : ∃ text, value = .text text := by
  have fits := fits_of_lookup regular member done found
  cases value with
  | text content => exact ⟨content, rfl⟩
  | switch on => exact absurd (valued.symm.trans fits) Bool.false_ne_true

/-- Every source gives a value of the kind of the option. -/
theorem fits_choose {commandLine : Dictionary Value} {environment : Dictionary String}
    {defaults : Defaults}
    (onLine : ∀ value, commandLine.lookup? option.key = some value → value.Fits option) :
    ∀ resolved ∈ choose option commandLine environment defaults, resolved.value.Fits option := by
  intro resolved chosen
  unfold choose at chosen
  cases given : commandLine.lookup? option.key with
  | some value =>
    rw [given] at chosen
    obtain rfl := Option.some.inj chosen
    exact onLine value given
  | none =>
    rw [given] at chosen
    cases inEnvironment : environment.lookup? option.key with
    | some text =>
      rw [inEnvironment] at chosen
      obtain rfl := Option.some.inj chosen
      exact Value.fits_ofText text
    | none =>
      rw [inEnvironment] at chosen
      cases inFile : defaults.lookup? option.configKey with
      | some text =>
        rw [inFile] at chosen
        obtain rfl := Option.some.inj chosen
        exact Value.fits_ofText text
      | none =>
        rw [inFile] at chosen
        obtain ⟨text, -, rfl⟩ := Option.map_eq_some_iff.mp chosen
        exact Value.fits_ofText text

theorem isSome_choose {commandLine : Dictionary Value} {environment : Dictionary String}
    {defaults : Defaults} (default : option.default?.isSome) :
    (choose option commandLine environment defaults).isSome := by
  unfold choose
  cases commandLine.lookup? option.key with
  | some value => rfl
  | none =>
    cases environment.lookup? option.key with
    | some text => rfl
    | none =>
      cases defaults.lookup? option.configKey with
      | some text => rfl
      | none => exact Option.isSome_map.trans default

/-- Settings answer for the table that they were resolved from. -/
theorem answers_of_resolve (regular : table.Regular) {arguments : List String}
    {environment : Environment} {defaults : Defaults} {settings : Settings}
    (resolved : resolve table arguments environment defaults = .ok settings) :
    Answers table settings := by
  obtain ⟨commandLine, given, entries⟩ := entry_of_resolve regular.keys resolved
  constructor
  intro option member
  have found := entries option.key
  rw [regular.find?_eq_some_iff.mpr ⟨member, rfl⟩] at found
  exact ⟨_, found, fits_choose fun value => fits_of_lookup regular member given, isSome_choose⟩

end Sources

section Accessors

variable {table : Table} {settings : Settings} {key : String} {option : Entry}

theorem source?_of_entry {resolved? : Option Resolved}
    (found : settings.entry key = .ok ⟨option, resolved?⟩) :
    settings.source? key = .ok (resolved?.map (·.source)) := by
  unfold source?
  rw [found]
  rfl

theorem value_of_entry {text : String} {source : Source}
    (found : settings.entry key = .ok ⟨option, some ⟨.text text, source⟩⟩) :
    settings.value key = .ok text := by
  unfold value
  rw [found]
  rfl

theorem value_of_entry_none (found : settings.entry key = .ok ⟨option, none⟩) :
    settings.value key = .error (.notSet option) := by
  unfold value
  rw [found]
  rfl

/-- What is known of the text of an option that takes a value: it is there, or nothing sets it. -/
theorem Answers.value_cases (answers : Answers table settings) (member : option ∈ table)
    (valued : option.isSwitch = false) :
    (∃ text, settings.value option.key = .ok text) ∨
      option.default? = none ∧ settings.value option.key = .error (.notSet option) := by
  obtain ⟨resolved?, found, fits, default⟩ := answers.exists_entry option member
  rcases resolved? with _ | ⟨content | on, source⟩
  · refine .inr ⟨?_, value_of_entry_none found⟩
    exact Option.not_isSome_iff_eq_none.mp fun set => Bool.false_ne_true (default set)
  · exact .inl ⟨content, value_of_entry found⟩
  · exact absurd (valued.symm.trans (fits _ rfl)) Bool.false_ne_true

theorem Answers.succeeds_value (answers : Answers table settings) (member : option ∈ table)
    (valued : option.isSwitch = false) (default : option.default?.isSome) :
    (settings.value option.key).Succeeds := by
  rcases answers.value_cases member valued with text | ⟨missing, -⟩
  · exact text
  · rw [missing] at default
    contradiction

theorem Answers.succeeds_value? (answers : Answers table settings) (member : option ∈ table)
    (valued : option.isSwitch = false) : (settings.value? option.key).Succeeds := by
  unfold value?
  rcases answers.value_cases member valued with ⟨text, known⟩ | ⟨-, unset⟩
  · rw [known]
    exact .ok (some text)
  · rw [unset]
    exact .ok none

theorem Answers.succeeds_isOn? (answers : Answers table settings) (member : option ∈ table) :
    (settings.isOn? option.key).Succeeds := by
  obtain ⟨resolved?, found, -⟩ := answers.exists_entry option member
  unfold isOn?
  refine Except.Succeeds.bind ⟨_, found⟩ fun setting _ => ?_
  split
  · exact .ok _
  · exact .ok false

theorem Answers.succeeds_source? (answers : Answers table settings) (member : option ∈ table) :
    (settings.source? option.key).Succeeds := by
  obtain ⟨resolved?, found, -⟩ := answers.exists_entry option member
  exact ⟨_, source?_of_entry found⟩

end Accessors

end Offload.Settings
