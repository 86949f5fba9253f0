import Offload.Proofs.Target.Listing

/-! # Targets as they are written

What a text can list are the well-formed targets, and each of them is listed by its own written form.
Backends, flavors and architectures are made of letters, digits and two more characters (`IsWordChar`),
none of which is blank or means anything in a list, so `display` puts every mark where the reader takes
it for what it is (`spells_display`). `parse_display_of_wellFormed` joins the two: what is read from a
text is well formed, and is read again from its written forms between semicolons.
-/

namespace Offload.Target

open Offload.Text (isBlank)

/-- Targets that can be compiled for together, each written with what its backend comes in. -/
structure WellFormed (targets : List Target) : Prop where
  nonempty : targets ≠ []
  distinct : (targets.map (·.backend)).Nodup
  flavors : ∀ target ∈ targets, ∀ flavor ∈ target.flavor?, flavor ∈ target.backend.flavors
  architectures : ∀ target ∈ targets, target.backend.Takes target.architectures

section Words

/-- A character of the words that names and architectures are made of. -/
def IsWordChar (c : Char) : Prop :=
  c.isAlphanum = true ∨ c = '-' ∨ c = '_'

instance : DecidablePred IsWordChar :=
  fun c => inferInstanceAs (Decidable (c.isAlphanum = true ∨ c = '-' ∨ c = '_'))

variable {c : Char}

theorem IsWordChar.not_isBlank (word : IsWordChar c) : isBlank c = false := by
  rcases word with plain | rfl | rfl
  · exact Text.not_isBlank_of_isAlphanum plain
  · decide
  · decide

theorem isWordChar_of_all {text : List Char} (all : (text.all fun c => decide (IsWordChar c)) = true)
    (member : c ∈ text) : IsWordChar c :=
  of_decide_eq_true (List.all_eq_true.mp all c member)

theorem isWordChar_of_mem_backend {backend : Backend} (member : c ∈ backend.name.toList) :
    IsWordChar c :=
  isWordChar_of_all (by cases backend <;> decide) member

theorem isWordChar_of_mem_flavor {flavor : Flavor} (member : c ∈ flavor.name.toList) :
    IsWordChar c :=
  isWordChar_of_all (by cases flavor <;> decide) member

theorem isWordChar_of_mem_form {beginning architecture : String}
    (front : ∀ c ∈ beginning.toList, IsWordChar c) (form : HasForm beginning architecture)
    (member : c ∈ architecture.toList) : IsWordChar c := by
  obtain ⟨digit, rest, written, isDigit, plain⟩ := form
  rw [written, List.mem_append, List.mem_cons] at member
  rcases member with inFront | rfl | inRest
  · exact front c inFront
  · exact .inl (by rw [Char.isAlphanum, isDigit, Bool.or_true])
  · exact .inl (plain c inRest)

/-- Whatever architectures a backend takes, they are words, and none is empty. -/
theorem Backend.Takes.isWord {backend : Backend} {architectures : List String}
    (taken : backend.Takes architectures) {architecture : String}
    (member : architecture ∈ architectures) :
    architecture ≠ "" ∧ ∀ c ∈ architecture.toList, IsWordChar c := by
  have word {beginning : String}
      (front : (beginning.toList.all fun c => decide (IsWordChar c)) = true)
      (form : HasForm beginning architecture) :
      architecture ≠ "" ∧ ∀ c ∈ architecture.toList, IsWordChar c := by
    refine ⟨?_, fun c => isWordChar_of_mem_form (fun _ => isWordChar_of_all front) form⟩
    rintro rfl
    obtain ⟨digit, rest, written, -⟩ := form
    simp at written
  cases backend with
  | omp | generic => exact absurd (taken ▸ member) List.not_mem_nil
  | cuda => exact word (by decide) (taken architecture member)
  | hip => exact word (by decide) (taken architecture member)
  | cudaNvcxx => exact word (by decide) (taken.2 architecture member)

end Words

section Segments

/-- A text that can stand as a segment of a list: it is not empty, and holds no semicolon and no blank. -/
structure IsSegment (text : List Char) : Prop where
  nonempty : text ≠ []
  whole : ';' ∉ text
  compact : ∀ c ∈ text, isBlank c = false

theorem IsSegment.whole_append {blanks text : List Char} (segment : IsSegment text)
    (blank : ∀ c ∈ blanks, isBlank c = true) : ';' ∉ blanks ++ text := by
  rw [List.mem_append]
  rintro (inBlanks | inText)
  · exact absurd (blank _ inBlanks) (by decide)
  · exact segment.whole inText

/-- Segments between semicolons, with blanks behind these, are found again. -/
theorem map_trim_fields_intercalate {blanks lead first : List Char} {others : List (List Char)}
    (blank : ∀ c ∈ blanks, isBlank c = true) (leadBlank : ∀ c ∈ lead, isBlank c = true)
    (each : ∀ part ∈ first :: others, IsSegment part) :
    (Text.fields ';' (lead ++ (';' :: blanks).intercalate (first :: others))).map Text.trim =
      first :: others := by
  induction others generalizing lead first with
  | nil =>
    have here := each first (List.mem_singleton_self first)
    rw [List.intercalate_singleton, Text.fields_of_notMem (here.whole_append leadBlank),
      List.map_singleton, Text.trim_append leadBlank here.compact]
  | cons next others ih =>
    obtain ⟨here, later⟩ := List.forall_mem_cons.mp each
    rw [List.intercalate_cons_cons, List.append_assoc, List.cons_append, ← List.append_assoc,
      Text.fields_append (here.whole_append leadBlank), List.map_cons,
      Text.trim_append leadBlank here.compact, ih blank later]

theorem segments_intercalate {blanks : List Char} (blank : ∀ c ∈ blanks, isBlank c = true)
    {parts : List (List Char)} (each : ∀ part ∈ parts, IsSegment part) :
    segments ((';' :: blanks).intercalate parts) = parts := by
  cases parts with
  | nil => rfl
  | cons first others =>
    have fields := @map_trim_fields_intercalate blanks [] first others blank (by simp) each
    rw [List.nil_append] at fields
    rw [segments, fields, List.filter_eq_self]
    intro part member
    simpa using (each part member).nonempty

end Segments

section Written

variable {target : Target}

theorem isWordChar_of_mem_name {backend : Backend} {flavor? : Option Flavor} {c : Char}
    (member : c ∈ backend.name.toList ++ flavorSuffix flavor?) : IsWordChar c ∨ c = '.' := by
  rcases List.mem_append.mp member with inBackend | inSuffix
  · exact .inl (isWordChar_of_mem_backend inBackend)
  · cases flavor? with
    | none => contradiction
    | some flavor =>
      rcases List.mem_cons.mp inSuffix with dot | inFlavor
      · exact .inr dot
      · exact .inl (isWordChar_of_mem_flavor inFlavor)

theorem isWordChar_of_mem_architectures (taken : target.backend.Takes target.architectures) {c : Char}
    (member : c ∈ architectureSuffix target.architectures) : IsWordChar c ∨ c = ':' ∨ c = ',' := by
  rw [architectureSuffix] at member
  split at member
  · contradiction
  · rcases List.mem_cons.mp member with colon | inList
    · exact .inr (.inl colon)
    · rcases Text.mem_joinFields inList with comma | ⟨part, inParts, inPart⟩
      · exact .inr (.inr comma)
      · obtain ⟨architecture, listed, rfl⟩ := List.mem_map.mp inParts
        exact .inl ((taken.isWord listed).2 c inPart)

/-- The characters of a written target are those of its words and the marks between them. -/
theorem mem_display (taken : target.backend.Takes target.architectures) {c : Char}
    (member : c ∈ target.display.toList) : IsWordChar c ∨ c ∈ ['.', ':', ','] := by
  rw [display, String.toList_ofList] at member
  rcases List.mem_append.mp member with inName | inArchitectures
  · exact (isWordChar_of_mem_name inName).imp_right fun dot => by simp [dot]
  · exact (isWordChar_of_mem_architectures taken inArchitectures).imp_right fun mark => by simp [mark]

theorem isSegment_display (taken : target.backend.Takes target.architectures) :
    IsSegment target.display.toList := by
  refine ⟨?_, ?_, ?_⟩
  · have named : target.backend.name.toList ≠ [] := by cases target.backend <;> decide
    rw [display, String.toList_ofList]
    simp [named]
  · intro semicolon
    rcases mem_display taken semicolon with word | mark
    · exact absurd word (by decide)
    · exact absurd mark (by decide)
  · intro c member
    rcases mem_display taken member with word | mark
    · exact word.not_isBlank
    · have marks : (['.', ':', ','].all fun mark => !isBlank mark) = true := by decide
      simpa using List.all_eq_true.mp marks c mark

theorem named_flavorSuffix {backend : Backend} {flavor? : Option Flavor}
    (comesIn : ∀ flavor ∈ flavor?, flavor ∈ backend.flavors) :
    Named (backend.name.toList ++ flavorSuffix flavor?) backend flavor? := by
  cases flavor? with
  | none =>
    rw [flavorSuffix, List.append_nil]
    exact .plain
  | some flavor => exact .flavored (comesIn flavor rfl)

/-- Architectures between commas are found again. -/
theorem map_trim_fields_joinFields {backend : Backend} {architectures : List String}
    (taken : backend.Takes architectures) (nonempty : architectures ≠ []) :
    (Text.fields ',' (Text.joinFields ',' (architectures.map String.toList))).map Text.trim =
      architectures.map String.toList := by
  have word (part : List Char) (member : part ∈ architectures.map String.toList) :
      ∀ c ∈ part, IsWordChar c := by
    obtain ⟨architecture, listed, rfl⟩ := List.mem_map.mp member
    exact (taken.isWord listed).2
  rw [Text.fields_joinFields (by simpa using nonempty) fun part member comma =>
    absurd (word part member ',' comma) (by decide)]
  calc (architectures.map String.toList).map Text.trim
      = (architectures.map String.toList).map id := List.map_congr_left fun part member =>
        Text.trim_of_compact fun c inPart => (word part member c inPart).not_isBlank
    _ = architectures.map String.toList := List.map_id _

/-- A target with a flavor and architectures that its backend takes is spelled as it is written. -/
theorem spells_display (comesIn : ∀ flavor ∈ target.flavor?, flavor ∈ target.backend.flavors)
    (taken : target.backend.Takes target.architectures) : Spells target.display.toList target := by
  obtain ⟨backend, flavor?, architectures⟩ := target
  have named := named_flavorSuffix comesIn
  rw [display, String.toList_ofList]
  cases architectures with
  | nil =>
    rw [architectureSuffix, List.isEmpty_nil, if_pos rfl, List.append_nil]
    exact .bare named
  | cons first others =>
    have compact : ∀ c ∈ backend.name.toList ++ flavorSuffix flavor?, isBlank c = false := by
      intro c member
      rcases isWordChar_of_mem_name member with word | rfl
      · exact word.not_isBlank
      · decide
    have filled : "" ∉ first :: others := fun member => (taken.isWord member).1 rfl
    refine .listed named.colon_notMem ?_
      (map_trim_fields_joinFields taken (List.cons_ne_nil first others)) filled taken
    rwa [Text.trim_of_compact compact]

theorem Named.mem_flavors {name : List Char} {backend : Backend} {flavor? : Option Flavor}
    (named : Named name backend flavor?) : ∀ flavor ∈ flavor?, flavor ∈ backend.flavors := by
  cases named with
  | plain => simp
  | flavored comesIn => simpa using comesIn

/-- Whatever a segment spells, its backend comes in its flavor and takes its architectures. -/
theorem Spells.taken {segment : List Char} (spells : Spells segment target) :
    (∀ flavor ∈ target.flavor?, flavor ∈ target.backend.flavors) ∧
      target.backend.Takes target.architectures := by
  cases spells with
  | bare named => exact ⟨named.mem_flavors, Backend.takes_nil _⟩
  | listed _ named _ _ taken => exact ⟨named.mem_flavors, taken⟩

end Written

section Lists

variable {targets : List Target}

theorem parse_eq_ok_iff {given : String} : parse given = .ok targets ↔ Lists given targets := by
  rw [parse, Except.mapError_eq_ok_iff]
  exact readList_eq_ok_iff

theorem Lists.wellFormed {given : String} (lists : Lists given targets) : WellFormed targets := by
  have each := ((List.forall₂_and_left _ _).mp (lists.spelled.flip.imp fun _ _ spells =>
    ⟨Spells.taken spells, spells⟩)).1
  exact ⟨lists.nonempty, lists.distinct, fun target member => (each target member).1,
    fun target member => (each target member).2⟩

/-- Well-formed targets are listed by their written forms with semicolons between them and, behind
these, any blanks. -/
theorem WellFormed.lists (wellFormed : WellFormed targets) {blanks : List Char}
    (blank : ∀ c ∈ blanks, isBlank c = true) :
    Lists ((String.ofList (';' :: blanks)).intercalate (targets.map display)) targets := by
  refine ⟨wellFormed.nonempty, wellFormed.distinct, ?_⟩
  have written : ∀ part ∈ (targets.map display).map String.toList, IsSegment part := by
    rw [List.map_map]
    intro part member
    obtain ⟨target, listed, rfl⟩ := List.mem_map.mp member
    exact isSegment_display (wellFormed.architectures target listed)
  rw [String.toList_intercalate, String.toList_ofList]
  change List.Forall₂ Spells (segments _) targets
  rw [segments_intercalate blank written, List.map_map, List.forall₂_map_left_iff, List.forall₂_same]
  intro target listed
  exact spells_display (wellFormed.flavors target listed) (wellFormed.architectures target listed)

/-- What any text lists is well formed, and well-formed targets are read back from their written forms
between semicolons; so what is read from a text is read again from what is written of it. -/
theorem parse_display_of_wellFormed (targets : List Target) :
    (∀ given, parse given = .ok targets → WellFormed targets) ∧
    (WellFormed targets → parse (";".intercalate (targets.map display)) = .ok targets ∧
      parse ("; ".intercalate (targets.map display)) = .ok targets) ∧
    ∀ given, parse given = .ok targets →
      parse (";".intercalate (targets.map display)) = .ok targets ∧
        parse ("; ".intercalate (targets.map display)) = .ok targets := by
  have image (given : String) (read : parse given = .ok targets) : WellFormed targets :=
    (parse_eq_ok_iff.mp read).wellFormed
  have again (wellFormed : WellFormed targets) :
      parse (";".intercalate (targets.map display)) = .ok targets ∧
        parse ("; ".intercalate (targets.map display)) = .ok targets := by
    constructor
    · exact parse_eq_ok_iff.mpr (@WellFormed.lists targets wellFormed [] (by simp))
    · have blank : [' '].all isBlank = true := by decide
      exact parse_eq_ok_iff.mpr (@WellFormed.lists targets wellFormed [' ']
        (List.all_eq_true.mp blank))
  exact ⟨image, again, fun given read => again (image given read)⟩

theorem parse_display_of_wellFormed_blanks :
    parse " cuda-nvcxx : cc70 ;; hip.explicit-multipass:gfx90a , gfx1030;omp" =
        .ok [⟨.cudaNvcxx, none, ["cc70"]⟩,
          ⟨.hip, some .explicitMultipass, ["gfx90a", "gfx1030"]⟩, ⟨.omp, none, []⟩] ∧
      parse "cuda-nvcxx:cc70; hip.explicit-multipass:gfx90a,gfx1030; omp" =
        .ok [⟨.cudaNvcxx, none, ["cc70"]⟩,
          ⟨.hip, some .explicitMultipass, ["gfx90a", "gfx1030"]⟩, ⟨.omp, none, []⟩] := by
  have read : parse " cuda-nvcxx : cc70 ;; hip.explicit-multipass:gfx90a , gfx1030;omp" = .ok _ := rfl
  obtain ⟨image, again, -⟩ := parse_display_of_wellFormed [⟨.cudaNvcxx, none, ["cc70"]⟩,
    ⟨.hip, some .explicitMultipass, ["gfx90a", "gfx1030"]⟩, ⟨.omp, none, []⟩]
  exact ⟨read, (again (image _ read)).2⟩

end Lists

end Offload.Target
