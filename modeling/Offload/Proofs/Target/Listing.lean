import Offload.Proofs.Except
import Offload.Target.Basic

/-! # What a text lists

The grammar of a list of targets, with the targets it derives: `HasForm` for one architecture,
`Backend.Takes` for those of a backend, `Named` for a name, `Spells` for a segment and `Lists` for the
whole text. The steps of the reader are shown to accept exactly their part of it, each by the lemmas
of the steps it is made of. `parse_eq_ok_iff_lists` puts them together: a text is read as the targets
it lists, and a text that lists none is an invalid one.
-/

namespace Offload.Target

section Grammar

/-- An architecture that begins as said, then has a digit, then ASCII letters and digits only. -/
def HasForm (beginning architecture : String) : Prop :=
  ∃ digit rest, architecture.toList = beginning.toList ++ digit :: rest ∧ digit.isDigit = true ∧
    ∀ c ∈ rest, c.isAlphanum = true

/-- The lists of architectures that a backend can be given. -/
def Backend.Takes : Backend → List String → Prop
  | .omp, architectures | .generic, architectures => architectures = []
  | .cuda, architectures => ∀ architecture ∈ architectures, HasForm "sm_" architecture
  | .hip, architectures => ∀ architecture ∈ architectures, HasForm "gfx" architecture
  | .cudaNvcxx, architectures =>
    architectures.length ≤ 1 ∧ ∀ architecture ∈ architectures, HasForm "cc" architecture

/-- A name: of a backend alone, or of a backend and, behind a dot, of a flavor it comes in. -/
inductive Named : List Char → Backend → Option Flavor → Prop where
  | plain {backend : Backend} : Named backend.name.toList backend none
  | flavored {backend : Backend} {flavor : Flavor} (comesIn : flavor ∈ backend.flavors) :
      Named (backend.name.toList ++ '.' :: flavor.name.toList) backend (some flavor)

/-- The target that a segment spells: by a name alone, or by a name and, behind the first colon, by
architectures between commas, with blanks allowed around each of these. -/
inductive Spells : List Char → Target → Prop where
  | bare {name : List Char} {backend : Backend} {flavor? : Option Flavor}
      (named : Named name backend flavor?) : Spells name ⟨backend, flavor?, []⟩
  | listed {front list : List Char} {backend : Backend} {flavor? : Option Flavor}
      {architectures : List String} (first : ':' ∉ front)
      (named : Named (Text.trim front) backend flavor?)
      (items : (Text.fields ',' list).map Text.trim = architectures.map String.toList)
      (filled : "" ∉ architectures) (taken : backend.Takes architectures) :
      Spells (front ++ ':' :: list) ⟨backend, flavor?, architectures⟩

/-- The targets that a text lists: its segments spell them in order, there is one at least, and no
backend occurs twice. -/
structure Lists (given : String) (targets : List Target) : Prop where
  nonempty : targets ≠ []
  distinct : (targets.map (·.backend)).Nodup
  spelled : List.Forall₂ Spells
    (((Text.fields ';' given.toList).map Text.trim).filter (!·.isEmpty)) targets

end Grammar

section Architectures

theorem ArchitectureForm.admits_iff {form : ArchitectureForm} {architecture : String} :
    form.admits architecture = true ↔ HasForm form.beginning architecture := by
  rw [admits, HasForm]
  constructor
  · intro admitted
    split at admitted
    · rename_i digit rest found
      rw [Bool.and_eq_true, List.all_eq_true] at admitted
      exact ⟨digit, rest, Text.afterPrefix?_eq_some_iff.mp found, admitted⟩
    · contradiction
  · rintro ⟨digit, rest, written, isDigit, plain⟩
    rw [Text.afterPrefix?_eq_some_iff.mpr written, Bool.and_eq_true, List.all_eq_true]
    exact ⟨isDigit, plain⟩

/-- No architecture fails the form exactly if each has it. -/
theorem find?_admits_eq_none_iff {form : ArchitectureForm} {architectures : List String} :
    architectures.find? (!form.admits ·) = none ↔
      ∀ architecture ∈ architectures, HasForm form.beginning architecture := by
  simp [List.find?_eq_none, ArchitectureForm.admits_iff]

theorem Backend.checkArchitectures_of_form {backend : Backend} {form : ArchitectureForm}
    {architectures : List String} (known : backend.form? = some form) :
    backend.checkArchitectures architectures = .ok () ↔
      (backend = .cudaNvcxx → architectures.length ≤ 1) ∧
        ∀ architecture ∈ architectures, HasForm form.beginning architecture := by
  rw [← find?_admits_eq_none_iff]
  simp only [checkArchitectures, known]
  split
  · rename_i many
    apply iff_of_false
    · simp
    · rintro ⟨few, -⟩
      exact absurd (few many.1) (Nat.not_le.mpr many.2)
  · rename_i few
    have bounded : backend = .cudaNvcxx → architectures.length ≤ 1 :=
      fun same => Nat.not_lt.mp fun many => few ⟨same, many⟩
    cases architectures.find? (!form.admits ·) with
    | none => simpa using bounded
    | some architecture => simp

theorem Backend.checkArchitectures_eq_ok_iff {backend : Backend} {architectures : List String} :
    backend.checkArchitectures architectures = .ok () ↔ backend.Takes architectures := by
  cases backend with
  | omp | generic => cases architectures <;> simp [checkArchitectures, form?, Takes]
  | cuda => simp [@checkArchitectures_of_form .cuda _ _ rfl, Takes]
  | hip => simp [@checkArchitectures_of_form .hip _ _ rfl, Takes]
  | cudaNvcxx => simp [@checkArchitectures_of_form .cudaNvcxx _ _ rfl, Takes]

theorem Backend.takes_nil (backend : Backend) : backend.Takes [] := by
  cases backend <;> simp [Takes]

theorem readArchitectures_eq_ok_iff {segment text : List Char} {architectures : List String} :
    readArchitectures segment text = .ok architectures ↔
      (Text.fields ',' text).map Text.trim = architectures.map String.toList ∧
        "" ∉ architectures := by
  have isItems {items : List (List Char)} :
      items.map String.ofList = architectures ↔ items = architectures.map String.toList := by
    constructor
    · rintro rfl
      simp
    · rintro rfl
      simp
  rw [readArchitectures, ← isItems]
  generalize (Text.fields ',' text).map Text.trim = items
  split
  · rename_i hollow
    apply iff_of_false
    · simp
    · rintro ⟨rfl, filled⟩
      simp_all
  · rename_i filled
    rw [Except.ok.injEq]
    apply (and_iff_left_of_imp _).symm
    rintro rfl
    simpa using filled

end Architectures

section Segments

theorem Named.colon_notMem {name : List Char} {backend : Backend} {flavor? : Option Flavor}
    (named : Named name backend flavor?) : ':' ∉ name := by
  have free (backend : Backend) : ':' ∉ backend.name.toList := by cases backend <;> decide
  cases named with
  | plain => exact free backend
  | @flavored _ flavor comesIn =>
    rw [List.mem_append, List.mem_cons]
    rintro (inBackend | isDot | inFlavor)
    · exact free backend inBackend
    · exact absurd isDot (by decide)
    · cases flavor <;> exact absurd inFlavor (by decide)

theorem readName_eq_ok_iff {name : List Char} {backend : Backend} {flavor? : Option Flavor} :
    readName name = .ok (backend, flavor?) ↔ Named name backend flavor? := by
  constructor
  · intro read
    match cut : Text.cutAt '.' name with
    | (front, rest) =>
      simp only [readName, cut] at read
      split at read
      · contradiction
      · rename_i other known
        have written : front = other.name.toList := by
          rw [Backend.name_of_ofName? known, String.toList_ofList]
        cases rest with
        | none =>
          obtain ⟨rfl, rfl⟩ := Prod.mk.inj (Except.ok.inj read)
          obtain ⟨rfl, -⟩ := Text.cutAt_eq_none_iff.mp cut
          exact written ▸ .plain
        | some flavorName =>
          simp only [Option.map_some] at read
          split at read
          · rename_i flavor found
            obtain ⟨isFlavor, comesIn⟩ := Option.filter_eq_some_iff.mp found
            obtain ⟨rfl, rfl⟩ := Prod.mk.inj (Except.ok.inj read)
            obtain ⟨rfl, -⟩ := Text.cutAt_eq_some_iff.mp cut
            have flavorWritten : flavorName = flavor.name.toList := by
              rw [Flavor.name_of_ofName? isFlavor, String.toList_ofList]
            rw [written, flavorWritten]
            exact .flavored (by simpa [Backend.accepts] using comesIn)
          · contradiction
  · intro named
    have free : '.' ∉ backend.name.toList := by cases backend <;> decide
    cases named with
    | plain =>
      rw [readName, Text.cutAt_eq_none_iff.mpr ⟨rfl, free⟩]
      simp [Backend.ofName?_name]
    | @flavored _ flavor comesIn =>
      rw [readName, Text.cutAt_append free]
      have accepted : (some flavor).filter backend.accepts = some flavor :=
        Option.filter_eq_some_iff.mpr ⟨rfl, by simpa [Backend.accepts] using comesIn⟩
      simp [Backend.ofName?_name, Flavor.ofName?_name, accepted]

example : readName "cuda .explicit-multipass".toList = .error (.unknownBackend "cuda ") := by
  decide

theorem readSegment_eq_ok_iff {segment : List Char} {target : Target}
    (trimmed : Text.trim segment = segment) :
    readSegment segment = .ok target ↔ Spells segment target := by
  constructor
  · intro read
    obtain ⟨⟨backend, flavor?⟩, isName, read⟩ := Except.bind_eq_ok_iff.mp read
    have named := readName_eq_ok_iff.mp isName
    match cut : Text.cutAt ':' segment with
    | (front, none) =>
      rw [cut] at named read
      obtain ⟨rfl, -⟩ := Text.cutAt_eq_none_iff.mp cut
      obtain ⟨architectures, none, read⟩ := Except.bind_eq_ok_iff.mp read
      obtain rfl := Except.ok.inj none
      obtain ⟨⟨⟩, -, done⟩ := Except.bind_eq_ok_iff.mp read
      obtain rfl := Except.ok.inj done
      rw [trimmed] at named
      exact .bare named
    | (front, some list) =>
      rw [cut] at named read
      obtain ⟨rfl, first⟩ := Text.cutAt_eq_some_iff.mp cut
      obtain ⟨architectures, listed, read⟩ := Except.bind_eq_ok_iff.mp read
      obtain ⟨items, filled⟩ := readArchitectures_eq_ok_iff.mp listed
      obtain ⟨⟨⟩, checked, done⟩ := Except.bind_eq_ok_iff.mp read
      obtain rfl := Except.ok.inj done
      exact .listed first named items filled (Backend.checkArchitectures_eq_ok_iff.mp checked)
  · intro spelled
    apply Except.bind_eq_ok_iff.mpr
    cases spelled with
    | @bare _ backend flavor? named =>
      rw [Text.cutAt_eq_none_iff.mpr ⟨rfl, named.colon_notMem⟩, trimmed]
      refine ⟨(backend, flavor?), readName_eq_ok_iff.mpr named, ?_⟩
      have checked := Backend.checkArchitectures_eq_ok_iff.mpr (Backend.takes_nil backend)
      exact Except.bind_eq_ok_iff.mpr ⟨[], rfl, Except.bind_eq_ok_iff.mpr ⟨(), checked, rfl⟩⟩
    | @listed front list backend flavor? architectures first named items filled taken =>
      rw [Text.cutAt_append first]
      refine ⟨(backend, flavor?), readName_eq_ok_iff.mpr named, ?_⟩
      have checked := Backend.checkArchitectures_eq_ok_iff.mpr taken
      exact Except.bind_eq_ok_iff.mpr ⟨architectures, readArchitectures_eq_ok_iff.mpr ⟨items, filled⟩,
        Except.bind_eq_ok_iff.mpr ⟨(), checked, rfl⟩⟩

theorem distinct_concat_iff {before : List Target} {target : Target} :
    ((before ++ [target]).map (·.backend)).Nodup ↔
      (before.map (·.backend)).Nodup ∧ ¬ before.any (·.backend == target.backend) = true := by
  rw [List.map_append, List.nodup_append]
  simp

/-- One segment adds the target it spells, unless there is one of its backend. -/
theorem readSegments_cons_eq_ok_iff {before targets : List Target} {segment : List Char}
    {rest : List (List Char)} (trimmed : Text.trim segment = segment) :
    readSegments before (segment :: rest) = .ok targets ↔
      ∃ target, Spells segment target ∧ ¬ before.any (·.backend == target.backend) = true ∧
        readSegments (before ++ [target]) rest = .ok targets := by
  simp only [← readSegment_eq_ok_iff trimmed]
  rw [readSegments]
  match readSegment segment with
  | .error cause => simp
  | .ok target =>
    simp only
    split
    · rename_i repeated
      apply iff_of_false
      · simp
      · rintro ⟨other, same, fresh, -⟩
        obtain rfl := Except.ok.inj same
        exact fresh repeated
    · rename_i fresh
      constructor
      · intro read
        exact ⟨target, rfl, fresh, read⟩
      · rintro ⟨other, same, -, read⟩
        obtain rfl := Except.ok.inj same
        exact read

/-- The targets that were read before stay, and the ones that the segments spell follow. -/
theorem readSegments_eq_ok_iff {before targets : List Target} {segments : List (List Char)}
    (trimmed : ∀ segment ∈ segments, Text.trim segment = segment)
    (distinct : (before.map (·.backend)).Nodup) :
    readSegments before segments = .ok targets ↔
      ∃ more, targets = before ++ more ∧ List.Forall₂ Spells segments more ∧
        (targets.map (·.backend)).Nodup := by
  induction segments generalizing before with
  | nil =>
    rw [readSegments, Except.ok.injEq]
    constructor
    · rintro rfl
      exact ⟨[], (List.append_nil before).symm, .nil, distinct⟩
    · rintro ⟨more, rfl, spelled, -⟩
      obtain rfl := List.forall₂_nil_left_iff.mp spelled
      exact (List.append_nil before).symm
  | cons segment rest ih =>
    obtain ⟨trimmedFirst, trimmedRest⟩ := List.forall_mem_cons.mp trimmed
    rw [readSegments_cons_eq_ok_iff trimmedFirst]
    constructor
    · rintro ⟨target, spells, fresh, read⟩
      have extended := distinct_concat_iff.mpr ⟨distinct, fresh⟩
      obtain ⟨more, rfl, spelled, apart⟩ := (ih trimmedRest extended).mp read
      exact ⟨target :: more, (List.append_cons ..).symm, .cons spells spelled, apart⟩
    · rintro ⟨more, rfl, spelled, apart⟩
      obtain ⟨target, later, spells, spelledLater, rfl⟩ := List.forall₂_cons_left_iff.mp spelled
      have extended : ((before ++ [target]).map (·.backend)).Nodup := by
        rw [List.append_cons, List.map_append] at apart
        exact (List.nodup_append.mp apart).1
      refine ⟨target, spells, (distinct_concat_iff.mp extended).2, ?_⟩
      exact (ih trimmedRest extended).mpr ⟨later, List.append_cons .., spelledLater, apart⟩

theorem trim_of_mem_segments {text segment : List Char} (member : segment ∈ segments text) :
    Text.trim segment = segment := by
  obtain ⟨field, -, rfl⟩ := List.mem_map.mp (List.mem_filter.mp member).1
  exact Text.trimBy_trimBy Text.isBlank field

theorem readList_eq_ok_iff {given : String} {targets : List Target} :
    readList given.toList = .ok targets ↔ Lists given targets := by
  have read := @readSegments_eq_ok_iff [] targets (segments given.toList)
    (fun segment => trim_of_mem_segments) List.nodup_nil
  rw [readList, Except.bind_eq_ok_iff]
  constructor
  · rintro ⟨found, accepted, done⟩
    cases found with
    | nil => contradiction
    | cons target rest =>
      obtain rfl := Except.ok.inj done
      obtain ⟨more, rfl, spelled, distinct⟩ := read.mp accepted
      exact ⟨List.cons_ne_nil target rest, distinct, spelled⟩
  · rintro ⟨nonempty, distinct, spelled⟩
    refine ⟨targets, read.mpr ⟨targets, rfl, spelled, distinct⟩, ?_⟩
    cases targets with
    | nil => exact absurd rfl nonempty
    | cons target rest => rfl

end Segments

/-- A text is read as the targets that it lists; one that lists none is refused as such. -/
theorem parse_eq_ok_iff_lists (given : String) :
    (∀ targets, parse given = .ok targets ↔ Lists given targets) ∧
      ((¬ ∃ targets, Lists given targets) ↔
        ∃ cause, parse given = .error (.invalidList given cause)) := by
  have accepted (targets : List Target) : parse given = .ok targets ↔ Lists given targets := by
    rw [parse, Except.mapError_eq_ok_iff]
    exact readList_eq_ok_iff
  refine ⟨accepted, ?_⟩
  simp only [← accepted]
  rw [Except.not_exists_ok_iff]
  constructor
  · rintro ⟨fault, failed⟩
    obtain ⟨cause, -, rfl⟩ := Except.mapError_eq_error_iff.mp failed
    exact ⟨cause, failed⟩
  · rintro ⟨cause, failed⟩
    exact ⟨.invalidList given cause, failed⟩

end Offload.Target
