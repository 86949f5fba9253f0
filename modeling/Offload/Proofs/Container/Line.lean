import Offload.Container.Reader
import Offload.Proofs.Container.Edits
import Offload.Proofs.Text.Decimal
import Offload.Proofs.Text.Lines

/-! # What a line means

The meaning of a line is exact: it is a bracket or an attribute exactly if it has the form of one
(`Line.ofTrimmed_eq_opening_iff`, `Line.ofTrimmed_eq_closing_iff`, `Line.ofTrimmed_eq_attribute_iff`).
So a written line means what it was written for, up to the carriage return that its terminator takes,
and what is read from a line are pieces of it.
-/

namespace Offload.Container

open Offload.Text (cutAt lines.chomp)

/-- A key that a line can begin with: it does not look like indentation or a bracket. -/
structure LegibleKey (key : String) : Prop where
  space : key.toList.head? ≠ some ' '
  opening : ¬ ['{', '.'] <+: key.toList
  closing : ¬ ['}', '.'] <+: key.toList

/-- A name as it is read back from its line. -/
def chompName (name : String) : String :=
  String.ofList (lines.chomp name.toList)

/-- A value as it is read back from its line. -/
def chompValue (value : Value) : Value :=
  Value.ofChars (lines.chomp value.display)

/-- The value that a text is read as: the integer of 64 bits that it denotes, or else itself. -/
inductive Reads (text : List Char) : Value → Prop where
  | integer {n : Int64} (denotes : Text.Decimal.Denotes text n.toInt) : Reads text (.int n)
  | plain (noInteger : ¬ Text.Decimal.IsInt64 text) : Reads text (.text (String.ofList text))

/-- An attribute line: it is no bracket, and there is something before its first `=`. -/
structure IsAttribute (line : List Char) : Prop where
  opening : ¬ ['{', '.'] <+: line
  closing : ¬ ['}', '.'] <+: line
  equals : '=' ∈ line
  key : line.head? ≠ some '='

/-- There is a key before the `=` of an attribute line. -/
theorem IsAttribute.key_ne_nil {key text : List Char} (shape : IsAttribute (key ++ '=' :: text)) :
    key ≠ [] := by
  rintro rfl
  exact shape.key rfl

section Values

theorem Value.ofChars_of_isInt64 {text : List Char} {n : Int64}
    (denotes : Text.Decimal.Denotes text n.toInt) : Value.ofChars text = .int n := by
  unfold Value.ofChars
  rw [Text.Decimal.int64?_eq_some_iff.mpr denotes]

theorem Value.ofChars_of_not_isInt64 {text : List Char} (noInteger : ¬ Text.Decimal.IsInt64 text) :
    Value.ofChars text = .text (String.ofList text) := by
  unfold Value.ofChars
  rw [Text.Decimal.int64?_eq_none_iff.mpr noInteger]

theorem Value.ofChars_eq_iff {text : List Char} {value : Value} :
    Value.ofChars text = value ↔ Reads text value := by
  constructor
  · rintro rfl
    by_cases integer : Text.Decimal.IsInt64 text
    · obtain ⟨n, denotes⟩ := integer
      rw [Value.ofChars_of_isInt64 denotes]
      exact .integer denotes
    · rw [Value.ofChars_of_not_isInt64 integer]
      exact .plain integer
  · intro reads
    cases reads with
    | integer denotes => exact Value.ofChars_of_isInt64 denotes
    | plain noInteger => exact Value.ofChars_of_not_isInt64 noInteger

end Values

namespace Line

section Trimmed

variable {line : List Char}

theorem ofTrimmed_of_not_bracket {text : List Char} (nonempty : text ≠ [])
    (opening : ¬ ['{', '.'] <+: text) (closing : ¬ ['}', '.'] <+: text) :
    ofTrimmed text = ofEntry text := by
  unfold ofTrimmed
  split
  · contradiction
  · exact absurd ⟨_, rfl⟩ opening
  · exact absurd ⟨_, rfl⟩ closing
  · rfl

theorem ofEntry_append {key : List Char} (nonempty : key ≠ []) (free : '=' ∉ key)
    (value : List Char) :
    ofEntry (key ++ '=' :: value) = .attribute (String.ofList key) (Value.ofChars value) := by
  unfold ofEntry
  rw [Text.cutAt_append free]
  cases key with
  | nil => contradiction
  | cons c key => rfl

theorem ofEntry_eq_attribute_iff {key : String} {value : Value} :
    ofEntry line = .attribute key value ↔ key.toList ≠ [] ∧
      ∃ text, cutAt '=' line = (key.toList, some text) ∧ Reads text value := by
  constructor
  · intro means
    unfold ofEntry at means
    split at means
    · contradiction
    · contradiction
    · rename_i key text nonempty cut
      obtain ⟨rfl, rfl⟩ := Line.attribute.inj means
      rw [String.toList_ofList]
      exact ⟨nonempty, text, cut, Value.ofChars_eq_iff.mp rfl⟩
  · rintro ⟨nonempty, text, cut, reads⟩
    obtain ⟨rfl, free⟩ := Text.cutAt_eq_some_iff.mp cut
    rw [ofEntry_append nonempty free, String.ofList_toList, Value.ofChars_eq_iff.mpr reads]

/-- A line that is no bracket is never taken for one, nor for an empty line. -/
theorem ofEntry_ne (line : List Char) : ofEntry line ≠ .blank ∧
    ∀ name, ofEntry line ≠ .opening name ∧ ofEntry line ≠ .closing name := by
  unfold ofEntry
  split <;> simp

/-- A line is empty, a bracket, or neither. -/
theorem ofTrimmed_cases (line : List Char) :
    (line = [] ∧ ofTrimmed line = .blank) ∨
      (∃ name, line = '{' :: '.' :: name ∧ ofTrimmed line = .opening (String.ofList name)) ∨
      (∃ name, line = '}' :: '.' :: name ∧ ofTrimmed line = .closing (String.ofList name)) ∨
      (¬ ['{', '.'] <+: line ∧ ¬ ['}', '.'] <+: line ∧ ofTrimmed line = ofEntry line) := by
  unfold ofTrimmed
  split
  · exact .inl ⟨rfl, rfl⟩
  · exact .inr (.inl ⟨_, rfl, rfl⟩)
  · exact .inr (.inr (.inl ⟨_, rfl, rfl⟩))
  · rename_i opening closing
    refine .inr (.inr (.inr ⟨?_, ?_, rfl⟩))
    · rintro ⟨name, front⟩
      exact opening name front.symm
    · rintro ⟨name, front⟩
      exact closing name front.symm

theorem ofTrimmed_eq_blank_iff : ofTrimmed line = .blank ↔ line = [] := by
  constructor
  · intro means
    rcases ofTrimmed_cases line with ⟨empty, -⟩ | ⟨name, -, other⟩ | ⟨name, -, other⟩ | ⟨-, -, other⟩
    · exact empty
    · exact absurd (other.symm.trans means) (by simp)
    · exact absurd (other.symm.trans means) (by simp)
    · exact absurd (other.symm.trans means) (ofEntry_ne line).1
  · rintro rfl
    rfl

theorem ofTrimmed_eq_opening_iff {name : String} :
    ofTrimmed line = .opening name ↔ line = '{' :: '.' :: name.toList := by
  constructor
  · intro means
    rcases ofTrimmed_cases line with ⟨-, other⟩ | ⟨own, rfl, same⟩ | ⟨own, -, other⟩ | ⟨-, -, other⟩
    · exact absurd (other.symm.trans means) (by simp)
    · obtain rfl := Line.opening.inj (same.symm.trans means)
      rw [String.toList_ofList]
    · exact absurd (other.symm.trans means) (by simp)
    · exact absurd (other.symm.trans means) ((ofEntry_ne line).2 name).1
  · rintro rfl
    rw [ofTrimmed, String.ofList_toList]

theorem ofTrimmed_eq_closing_iff {name : String} :
    ofTrimmed line = .closing name ↔ line = '}' :: '.' :: name.toList := by
  constructor
  · intro means
    rcases ofTrimmed_cases line with ⟨-, other⟩ | ⟨own, -, other⟩ | ⟨own, rfl, same⟩ | ⟨-, -, other⟩
    · exact absurd (other.symm.trans means) (by simp)
    · exact absurd (other.symm.trans means) (by simp)
    · obtain rfl := Line.closing.inj (same.symm.trans means)
      rw [String.toList_ofList]
    · exact absurd (other.symm.trans means) ((ofEntry_ne line).2 name).2
  · rintro rfl
    rw [ofTrimmed, String.ofList_toList]

/-- A line is read as an attribute exactly if it is an attribute line, cut at its first `=`. -/
theorem ofTrimmed_eq_attribute_iff {key : String} {value : Value} :
    ofTrimmed line = .attribute key value ↔ IsAttribute line ∧
      ∃ text, cutAt '=' line = (key.toList, some text) ∧ Reads text value := by
  constructor
  · intro means
    rcases ofTrimmed_cases line with ⟨-, other⟩ | ⟨name, -, other⟩ | ⟨name, -, other⟩ |
      ⟨opening, closing, same⟩
    · exact absurd (other.symm.trans means) (by simp)
    · exact absurd (other.symm.trans means) (by simp)
    · exact absurd (other.symm.trans means) (by simp)
    · obtain ⟨nonempty, text, cut, reads⟩ := ofEntry_eq_attribute_iff.mp (same.symm.trans means)
      obtain ⟨rfl, free⟩ := Text.cutAt_eq_some_iff.mp cut
      refine ⟨⟨opening, closing, by simp, ?_⟩, text, cut, reads⟩
      rw [List.head?_append_of_ne_nil _ nonempty]
      exact fun first => free (List.mem_of_head? first)
  · rintro ⟨shape, text, cut, reads⟩
    obtain ⟨rfl, free⟩ := Text.cutAt_eq_some_iff.mp cut
    rw [ofTrimmed_of_not_bracket (by simp) shape.opening shape.closing]
    exact ofEntry_eq_attribute_iff.mpr ⟨shape.key_ne_nil, text, cut, reads⟩

/-- An attribute on a line of its own is never refused. -/
theorem checkAttribute_of_ofTrimmed {key : String} {value : Value}
    (means : ofTrimmed line = .attribute key value) (free : '\n' ∉ line) :
    checkAttribute key value = .ok () := by
  obtain ⟨shape, text, cut, reads⟩ := ofTrimmed_eq_attribute_iff.mp means
  obtain ⟨rfl, freeKey⟩ := Text.cutAt_eq_some_iff.mp cut
  refine checkAttribute_eq_ok_iff.mpr ⟨⟨shape.key_ne_nil, freeKey, ?_⟩, ?_⟩
  · exact fun lineFeed => free (List.mem_append_left _ lineFeed)
  · rintro content rfl lineFeed
    cases reads with
    | plain noInteger =>
      rw [String.toList_ofList] at lineFeed
      exact free (List.mem_append_right _ (List.mem_cons_of_mem _ lineFeed))

end Trimmed

section Written

theorem ofChars_indent (depth : Nat) {text : List Char} (head : text.head? ≠ some ' ') :
    ofChars (Node.indent depth ++ text) = ofTrimmed text := by
  unfold ofChars Node.indent
  rw [List.dropWhile_append_of_pos (by simp)]
  congr 1
  cases text with
  | nil => rfl
  | cons c text =>
    rw [List.dropWhile_cons_of_neg]
    simpa using head

/-- Spaces in front of a line do not change what it means. -/
theorem ofChars_eq_ofTrimmed {line : List Char} (head : line.head? ≠ some ' ') :
    ofChars line = ofTrimmed line :=
  ofChars_indent 0 head

theorem ofChars_openingLine (depth : Nat) (name : String) :
    ofChars (lines.chomp (Node.openingLine depth name)) = .opening (chompName name) := by
  have plain : Node.openingLine depth name = (Node.indent depth ++ ['{']) ++ '.' :: name.toList := by
    simp [Node.openingLine]
  rw [plain, Text.chomp_append_cons (by decide), List.append_assoc, ofChars_indent depth (by simp)]
  rfl

theorem ofChars_closingLine (depth : Nat) (name : String) :
    ofChars (lines.chomp (Node.closingLine depth name)) = .closing (chompName name) := by
  have plain : Node.closingLine depth name = (Node.indent depth ++ ['}']) ++ '.' :: name.toList := by
    simp [Node.closingLine]
  rw [plain, Text.chomp_append_cons (by decide), List.append_assoc, ofChars_indent depth (by simp)]
  rfl

theorem ofChars_attributeLine (depth : Nat) {key : String} {value : Value}
    (legible : LegibleKey key) (accepted : checkAttribute key value = .ok ()) :
    ofChars (lines.chomp (Node.attributeLine depth (key, value))) =
      .attribute key (chompValue value) := by
  obtain ⟨⟨nonempty, free, -⟩, -⟩ := checkAttribute_eq_ok_iff.mp accepted
  obtain ⟨space, opening, closing⟩ := legible
  have bracket {mark : List Char} (noEquals : '=' ∉ mark) (differs : ¬ mark <+: key.toList)
      (text : List Char) : ¬ mark <+: key.toList ++ '=' :: text :=
    fun begins => differs (Text.prefix_of_prefix_append_cons noEquals begins)
  unfold Node.attributeLine
  rw [Text.chomp_append_cons (by decide), List.append_assoc, ofChars_indent depth,
    ofTrimmed_of_not_bracket (by simp) (bracket (by decide) opening _)
      (bracket (by decide) closing _), ofEntry_append nonempty free, String.ofList_toList]
  · rfl
  · rwa [List.head?_append_of_ne_nil _ nonempty]

/-- Reading a written value never makes an attribute that could not have been written. -/
theorem checkAttribute_chompValue {key : String} {value : Value}
    (accepted : checkAttribute key value = .ok ()) :
    checkAttribute key (chompValue value) = .ok () := by
  obtain ⟨keyFine, textFine⟩ := checkAttribute_eq_ok_iff.mp accepted
  refine checkAttribute_eq_ok_iff.mpr ⟨keyFine, ?_⟩
  intro content read lineFeed
  unfold chompValue Value.ofChars at read
  split at read
  · contradiction
  · obtain rfl := Value.text.inj read
    have inDisplay := (Text.chomp_isPrefix value.display).mem (by simpa using lineFeed)
    cases value with
    | int n =>
      rcases Text.Decimal.mem_ofInt64 inDisplay with minus | digit
      · exact absurd minus (by decide)
      · exact absurd digit (by decide)
    | text content => exact textFine content rfl inDisplay

end Written

section Read

/-- The name of an opening line is the end of the line. -/
theorem suffix_of_opening {line : List Char} {name : String}
    (means : ofChars line = .opening name) : name.toList <:+ line := by
  have trimmed : line.dropWhile (· == ' ') <:+ line := List.dropWhile_suffix _
  rw [ofTrimmed_eq_opening_iff.mp means] at trimmed
  exact (List.suffix_append ['{', '.'] name.toList).trans trimmed

/-- The key of an attribute is a piece of its line that a line can begin with. -/
theorem key_of_attribute {line : List Char} {key : String} {value : Value}
    (means : ofChars line = .attribute key value) : LegibleKey key ∧ key.toList <:+: line := by
  obtain ⟨shape, text, cut, -⟩ := ofTrimmed_eq_attribute_iff.mp means
  obtain ⟨same, -⟩ := Text.cutAt_eq_some_iff.mp cut
  have front : key.toList <+: line.dropWhile (· == ' ') := by
    rw [same]
    exact List.prefix_append _ _
  refine ⟨⟨?_, ?_, ?_⟩, front.isInfix.trans (List.dropWhile_suffix _).isInfix⟩
  · intro space
    have head := List.head?_dropWhile_not (· == ' ') line
    rw [same, List.head?_append, space] at head
    simp at head
  · exact fun begins => shape.opening (begins.trans front)
  · exact fun begins => shape.closing (begins.trans front)

/-- The text of an attribute is a piece of its line that denotes no integer. -/
theorem text_of_attribute {line : List Char} {key content : String}
    (means : ofChars line = .attribute key (.text content)) :
    content.toList <:+: line ∧ ¬ Text.Decimal.IsInt64 content.toList := by
  obtain ⟨-, text, cut, reads⟩ := ofTrimmed_eq_attribute_iff.mp means
  obtain ⟨same, -⟩ := Text.cutAt_eq_some_iff.mp cut
  have back : text <:+ line.dropWhile (· == ' ') := by
    rw [same]
    exact (List.suffix_cons '=' text).trans (List.suffix_append _ _)
  cases reads with
  | plain noInteger =>
    rw [String.toList_ofList]
    exact ⟨(back.trans (List.dropWhile_suffix _)).isInfix, noInteger⟩

end Read

end Line

end Offload.Container
