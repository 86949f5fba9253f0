import Mathlib.Data.List.Infix
import Offload.Text.Split

/-! # Lines and what is inside them

A text without some separator cannot lie across an occurrence of it, so looking for such a text is
looking between the separators. Written lines are read back as lines, each without one carriage
return at its end; conversely every line that is read is a piece of the text without a line feed.
-/

namespace Offload.Text

section Separator

variable {α : Type} {mark front back : List α} {separator : α}

theorem prefix_of_prefix_append_cons (free : separator ∉ mark)
    (begins : mark <+: front ++ separator :: back) : mark <+: front := by
  induction mark generalizing front with
  | nil => exact List.nil_prefix
  | cons m mark ih =>
    obtain ⟨differs, freeMark⟩ := not_or.mp (mt List.mem_cons.mpr free)
    cases front with
    | nil => exact absurd (List.cons_prefix_cons.mp begins).1.symm differs
    | cons c front =>
      obtain ⟨rfl, later⟩ := List.cons_prefix_cons.mp begins
      exact List.cons_prefix_cons.mpr ⟨rfl, ih freeMark later⟩

/-- A mark without the separator lies on one side of it. -/
theorem infix_append_cons_iff (free : separator ∉ mark) :
    mark <:+: front ++ separator :: back ↔ mark <:+: front ∨ mark <:+: back := by
  constructor
  · intro inside
    induction front with
    | nil =>
      rcases List.infix_cons_iff.mp inside with begins | later
      · exact .inl (prefix_of_prefix_append_cons free begins).isInfix
      · exact .inr later
    | cons c front ih =>
      rw [List.cons_append] at inside
      rcases List.infix_cons_iff.mp inside with begins | later
      · rw [← List.cons_append] at begins
        exact .inl (prefix_of_prefix_append_cons free begins).isInfix
      · exact (ih later).imp_left List.infix_cons
  · rintro (left | right)
    · exact left.trans (List.prefix_append _ _).isInfix
    · exact right.trans ((List.suffix_cons _ _).isInfix.trans (List.suffix_append _ _).isInfix)

theorem infix_cons_iff_of_notMem (free : separator ∉ mark) (nonempty : mark ≠ []) :
    mark <:+: separator :: back ↔ mark <:+: back := by
  have sides : mark <:+: [] ++ separator :: back ↔ _ := infix_append_cons_iff free
  simpa [nonempty] using sides

end Separator

section Written

/-- Only a carriage return behind the last other character is dropped. -/
theorem chomp_append_cons {c : Char} (plain : c ≠ '\r') (front back : List Char) :
    lines.chomp (front ++ c :: back) = front ++ c :: lines.chomp back := by
  unfold lines.chomp
  cases back with
  | nil => simp [plain]
  | cons d back =>
    have last : (front ++ c :: d :: back).getLast? = (d :: back).getLast? := by
      rw [List.getLast?_append, List.getLast?_cons_cons, List.getLast?_cons]
      rfl
    rw [last]
    split
    · rw [List.dropLast_append_of_ne_nil (List.cons_ne_nil _ _), List.dropLast_cons_cons]
    · rfl

theorem chomp_eq_self_iff {text : List Char} :
    lines.chomp text = text ↔ text.getLast? ≠ some '\r' := by
  unfold lines.chomp
  split
  · rename_i ends
    simp only [ends, ne_eq, not_true_eq_false, iff_false]
    intro same
    have shorter := congrArg List.length same
    rw [List.length_dropLast] at shorter
    cases text with
    | nil => contradiction
    | cons c text => simp at shorter
  · rename_i ends
    simp [ends]

theorem chomp_isPrefix (text : List Char) : lines.chomp text <+: text := by
  unfold lines.chomp
  split
  · exact List.dropLast_prefix text
  · exact List.prefix_rfl

/-- Lines that are written one after another are the first fields between line feeds. -/
theorem fields_flatMap_append {written : List (List Char)} (free : ∀ line ∈ written, '\n' ∉ line)
    (rest : List Char) :
    fields '\n' (written.flatMap (· ++ ['\n']) ++ rest) = written ++ fields '\n' rest := by
  induction written with
  | nil => rfl
  | cons line written ih =>
    obtain ⟨here, later⟩ := List.forall_mem_cons.mp free
    rw [List.flatMap_cons, List.append_assoc, List.append_assoc, List.singleton_append,
      fields_append here, ih later, List.cons_append]

theorem terminated_append_nil (written : List (List Char)) :
    lines.terminated (written ++ [[]]) = written.map lines.chomp := by
  induction written with
  | nil => rfl
  | cons line written ih =>
    rw [List.map_cons, ← ih]
    cases written with
    | nil => rfl
    | cons next others => rfl

/-- Lines that are written one after another are read one after another. -/
theorem lines_flatMap {written : List (List Char)} (free : ∀ line ∈ written, '\n' ∉ line) :
    lines (written.flatMap (· ++ ['\n'])) = written.map lines.chomp := by
  have fields := fields_flatMap_append free []
  rw [List.append_nil] at fields
  rw [lines, fields]
  exact terminated_append_nil written

end Written

section Read

theorem infix_joinFields (separator : Char) {parts : List (List Char)} {part : List Char}
    (member : part ∈ parts) : part <:+: joinFields separator parts := by
  induction parts with
  | nil => contradiction
  | cons first others ih =>
    cases others with
    | nil =>
      obtain rfl := List.mem_singleton.mp member
      exact List.infix_rfl
    | cons second others =>
      change part <:+: first ++ separator :: joinFields separator (second :: others)
      rcases List.mem_cons.mp member with rfl | later
      · exact (List.prefix_append _ _).isInfix
      · exact (ih later).trans
          ((List.suffix_cons _ _).isInfix.trans (List.suffix_append _ _).isInfix)

/-- A line is a field without the carriage return that its terminator took. -/
theorem exists_field_of_mem_terminated {parts : List (List Char)} {line : List Char}
    (member : line ∈ lines.terminated parts) : ∃ part ∈ parts, line <+: part := by
  induction parts with
  | nil => contradiction
  | cons first others ih =>
    cases others with
    | nil =>
      rw [lines.terminated] at member
      split at member
      · contradiction
      · obtain rfl := List.mem_singleton.mp member
        exact ⟨line, List.mem_singleton_self _, List.prefix_rfl⟩
    | cons second others =>
      rcases List.mem_cons.mp member with rfl | later
      · exact ⟨first, List.mem_cons_self .., chomp_isPrefix first⟩
      · obtain ⟨part, inOthers, front⟩ := ih later
        exact ⟨part, List.mem_cons_of_mem _ inOthers, front⟩

/-- A line is a piece of the text. -/
theorem infix_of_mem_lines {text line : List Char} (member : line ∈ lines text) :
    line <:+: text := by
  obtain ⟨part, inFields, front⟩ := exists_field_of_mem_terminated member
  have piece := infix_joinFields '\n' inFields
  rw [joinFields_fields] at piece
  exact front.isInfix.trans piece

theorem lineFeed_notMem_of_mem_lines {text line : List Char} (member : line ∈ lines text) :
    '\n' ∉ line := by
  obtain ⟨part, inFields, front⟩ := exists_field_of_mem_terminated member
  intro inLine
  have separated := not_isSeparator_of_mem_fieldsBy inFields '\n' (front.mem inLine)
  exact absurd separated (by decide)

end Read

end Offload.Text
