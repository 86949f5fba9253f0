/-! # Cutting text at separators

Everything the driver reads is cut the same few ways: once at the first separator, or into all the
fields between separators. Both are structural on the list, so a later argument about a grammar is an
induction over the text; fields are cut out of bytes in the same way. The main statements say that
nothing is lost, `join_cutAt` and `joinFields_fields`, that fields without separators are found
again, `fields_joinFields`, and what trimming leaves, `trimBy_eq_iff`.
-/

namespace Offload.Text

/-- The part before the first separator, and what follows it when there is one. -/
def cutAt (separator : Char) : List Char → List Char × Option (List Char)
  | [] => ([], none)
  | c :: rest =>
    if c = separator then ([], some rest)
    else (c :: (cutAt separator rest).1, (cutAt separator rest).2)

@[simp] theorem cutAt_nil (separator : Char) : cutAt separator [] = ([], none) := rfl

@[simp] theorem cutAt_separator (separator : Char) (rest : List Char) :
    cutAt separator (separator :: rest) = ([], some rest) := by
  simp [cutAt]

theorem cutAt_cons_of_ne {separator c : Char} (differs : c ≠ separator) (rest : List Char) :
    cutAt separator (c :: rest) = (c :: (cutAt separator rest).1, (cutAt separator rest).2) := by
  simp [cutAt, differs]

/-- The part before the cut never holds the separator. -/
theorem separator_notMem_cutAt (separator : Char) (text : List Char) :
    separator ∉ (cutAt separator text).1 := by
  induction text with
  | nil => simp
  | cons c rest ih =>
    by_cases same : c = separator
    · simp [cutAt, same]
    · simpa [cutAt, same, Ne.symm same] using ih

/-- Putting the separator back between the two parts restores the text. -/
theorem join_cutAt (separator : Char) (text : List Char) :
    (cutAt separator text).1 ++
      ((cutAt separator text).2.map (separator :: ·)).getD [] = text := by
  induction text with
  | nil => simp
  | cons c rest ih =>
    by_cases same : c = separator
    · simp [cutAt, same]
    · simpa [cutAt, same] using ih

/-- A text is cut behind the part that has no separators. -/
theorem cutAt_append {separator : Char} {front : List Char} (free : separator ∉ front)
    (back : List Char) : cutAt separator (front ++ separator :: back) = (front, some back) := by
  induction front with
  | nil => exact cutAt_separator separator back
  | cons c rest ih =>
    obtain ⟨differs, freeRest⟩ := not_or.mp (mt List.mem_cons.mpr free)
    rw [List.cons_append, cutAt_cons_of_ne (Ne.symm differs), ih freeRest]

/-- What has no separators in front of a text joins the part before the cut. -/
theorem cutAt_append_left {separator : Char} {front : List Char} (free : separator ∉ front)
    (text : List Char) : cutAt separator (front ++ text) =
      (front ++ (cutAt separator text).1, (cutAt separator text).2) := by
  induction front with
  | nil => rfl
  | cons c rest ih =>
    obtain ⟨differs, freeRest⟩ := not_or.mp (mt List.mem_cons.mpr free)
    rw [List.cons_append, cutAt_cons_of_ne (Ne.symm differs), ih freeRest, List.cons_append]

/-- A text is cut exactly where it is put together around its first separator. -/
theorem cutAt_eq_some_iff {separator : Char} {text front back : List Char} :
    cutAt separator text = (front, some back) ↔
      text = front ++ separator :: back ∧ separator ∉ front := by
  constructor
  · intro cut
    have joined := join_cutAt separator text
    have free := separator_notMem_cutAt separator text
    rw [cut] at joined free
    exact ⟨joined.symm, free⟩
  · rintro ⟨rfl, free⟩
    exact cutAt_append free back

/-- A text that is not cut is its own part before the cut. -/
theorem cutAt_eq_none_iff {separator : Char} {text front : List Char} :
    cutAt separator text = (front, none) ↔ text = front ∧ separator ∉ text := by
  constructor
  · intro cut
    have joined := join_cutAt separator text
    have free := separator_notMem_cutAt separator text
    rw [cut] at joined free
    obtain rfl : front = text := by simpa using joined
    exact ⟨rfl, free⟩
  · rintro ⟨rfl, free⟩
    have whole := cutAt_append_left free []
    simpa using whole

/-- The rest of a text that begins with `front`. -/
def afterPrefix? : List Char → List Char → Option (List Char)
  | [], text => some text
  | _ :: _, [] => none
  | p :: front, c :: text => if p = c then afterPrefix? front text else none

theorem afterPrefix?_eq_some_iff {front text rest : List Char} :
    afterPrefix? front text = some rest ↔ text = front ++ rest := by
  induction front generalizing text with
  | nil => simp [afterPrefix?]
  | cons p front ih =>
    cases text with
    | nil => simp [afterPrefix?]
    | cons c text =>
      by_cases same : p = c
      · simp [afterPrefix?, same, ih]
      · simp [afterPrefix?, same, Ne.symm same]

/-- Whether a text begins with `front`. -/
def beginsWith (front text : List Char) : Bool :=
  (afterPrefix? front text).isSome

theorem beginsWith_iff {front text : List Char} : beginsWith front text = true ↔ front <+: text := by
  unfold beginsWith
  rw [Option.isSome_iff_exists]
  exact exists_congr fun rest => afterPrefix?_eq_some_iff.trans eq_comm

/-- The maximal runs of items that are no separator, empty runs included. -/
def fieldsBy {α : Type} (isSeparator : α → Bool) : List α → List (List α)
  | [] => [[]]
  | c :: rest =>
    if isSeparator c then [] :: fieldsBy isSeparator rest
    else
      match fieldsBy isSeparator rest with
      | [] => [[c]]
      | field :: others => (c :: field) :: others

/-- The fields between occurrences of one separator. -/
def fields (separator : Char) (text : List Char) : List (List Char) :=
  fieldsBy (· == separator) text

/-- Fields written back with a separator between each two. -/
def joinFields (separator : Char) : List (List Char) → List Char
  | [] => []
  | [field] => field
  | field :: others => field ++ separator :: joinFields separator others

theorem fieldsBy_ne_nil {α : Type} (isSeparator : α → Bool) (text : List α) :
    fieldsBy isSeparator text ≠ [] := by
  cases text with
  | nil => simp [fieldsBy]
  | cons c rest =>
    unfold fieldsBy
    split
    · simp
    · split <;> simp

/-- The fields of a text, joined again, are the text. -/
theorem joinFields_fields (separator : Char) (text : List Char) :
    joinFields separator (fields separator text) = text := by
  induction text with
  | nil => rfl
  | cons c rest ih =>
    unfold fields at ih ⊢
    unfold fieldsBy
    cases tail : fieldsBy (· == separator) rest with
    | nil => exact absurd tail (fieldsBy_ne_nil _ _)
    | cons field others =>
      rw [tail] at ih
      by_cases same : c = separator
      · simp [same, joinFields, ih]
      · cases others with
        | nil => simpa [same, joinFields] using ih
        | cons next others => simpa [same, joinFields] using ih

/-- A text without separators is one field. -/
theorem fields_of_notMem {separator : Char} {text : List Char} (free : separator ∉ text) :
    fields separator text = [text] := by
  induction text with
  | nil => rfl
  | cons c rest ih =>
    obtain ⟨differs, freeRest⟩ := not_or.mp (mt List.mem_cons.mpr free)
    have tail : fieldsBy (· == separator) rest = [rest] := ih freeRest
    simp [fields, fieldsBy, tail, Ne.symm differs]

/-- A text without separators is the first field of whatever follows it after one. -/
theorem fields_append {separator : Char} {text : List Char} (free : separator ∉ text)
    (rest : List Char) : fields separator (text ++ separator :: rest) =
      text :: fields separator rest := by
  induction text with
  | nil => simp [fields, fieldsBy]
  | cons c text ih =>
    obtain ⟨differs, freeText⟩ := not_or.mp (mt List.mem_cons.mpr free)
    have tail := ih freeText
    unfold fields at tail ⊢
    simp [fieldsBy, tail, Ne.symm differs]

/-- Fields without separators, joined, are the fields of the joined text. -/
theorem fields_joinFields {separator : Char} {parts : List (List Char)} (nonempty : parts ≠ [])
    (free : ∀ part ∈ parts, separator ∉ part) :
    fields separator (joinFields separator parts) = parts := by
  induction parts with
  | nil => exact absurd rfl nonempty
  | cons part others ih =>
    have freePart := free part (List.mem_cons_self ..)
    cases others with
    | nil => exact fields_of_notMem freePart
    | cons next others =>
      have later := ih (List.cons_ne_nil next others) fun other member =>
        free other (List.mem_cons_of_mem part member)
      change fields separator (part ++ separator :: joinFields separator (next :: others)) = _
      rw [fields_append freePart, later]

theorem mem_joinFields {separator c : Char} {parts : List (List Char)}
    (member : c ∈ joinFields separator parts) : c = separator ∨ ∃ part ∈ parts, c ∈ part := by
  induction parts with
  | nil => contradiction
  | cons first others ih =>
    cases others with
    | nil => exact .inr ⟨first, List.mem_singleton_self first, member⟩
    | cons second others =>
      rcases List.mem_append.mp member with inFirst | later
      · exact .inr ⟨first, List.mem_cons_self .., inFirst⟩
      · rcases List.mem_cons.mp later with mark | later
        · exact .inl mark
        · obtain mark | ⟨part, inOthers, inPart⟩ := ih later
          · exact .inl mark
          · exact .inr ⟨part, List.mem_cons_of_mem _ inOthers, inPart⟩

/-- No field holds a separator. -/
theorem not_isSeparator_of_mem_fieldsBy {α : Type} {isSeparator : α → Bool}
    {text field : List α} (member : field ∈ fieldsBy isSeparator text) :
    ∀ c ∈ field, isSeparator c = false := by
  induction text generalizing field with
  | nil => simp_all [fieldsBy]
  | cons c rest ih =>
    unfold fieldsBy at member
    split at member
    · rcases List.mem_cons.mp member with rfl | later
      · simp
      · exact ih later
    · rename_i plain
      split at member
      · simp_all
      · rename_i first others tail
        rcases List.mem_cons.mp member with rfl | later
        · intro d inField
          rcases List.mem_cons.mp inField with rfl | inFirst
          · simpa using plain
          · exact ih (by rw [tail]; exact List.mem_cons_self ..) d inFirst
        · exact ih (by rw [tail]; exact List.mem_cons_of_mem _ later)

/-- Text lines: a line ends at a line feed, one carriage return before it is dropped, and what
follows the last line feed is a line only when it is not empty. -/
def lines (text : List Char) : List (List Char) :=
  terminated (fields '\n' text)
where
  /-- One carriage return at the end of a line belongs to its terminator. -/
  chomp (line : List Char) : List Char :=
    if line.getLast? = some '\r' then line.dropLast else line
  /-- Every field but the last was ended by a line feed. -/
  terminated : List (List Char) → List (List Char)
    | [] => []
    | [last] => if last.isEmpty then [] else [last]
    | line :: others => chomp line :: terminated others

/-- `text` without the characters at its front that satisfy `drop`, and without those at its end. -/
def trimBy (drop : Char → Bool) (text : List Char) : List Char :=
  ((text.dropWhile drop).reverse.dropWhile drop).reverse

theorem dropWhile_append_of_forall {drop : Char → Bool} {front rest : List Char}
    (dropped : ∀ c ∈ front, drop c = true) (kept : ∀ c ∈ rest.head?, drop c = false) :
    (front ++ rest).dropWhile drop = rest := by
  induction front with
  | nil =>
    cases rest with
    | nil => rfl
    | cons c rest => simp [kept c rfl]
  | cons c front ih =>
    rw [List.cons_append, List.dropWhile_cons_of_pos (dropped c (List.mem_cons_self ..))]
    exact ih fun other member => dropped other (List.mem_cons_of_mem c member)

theorem not_drop_of_mem_head? {drop : Char → Bool} {text : List Char} :
    ∀ c ∈ (text.dropWhile drop).head?, drop c = false := by
  intro c first
  have kept := List.head?_dropWhile_not drop text
  rw [Option.mem_def.mp first] at kept
  exact kept

/-- Trimming takes away what may be dropped around a text that neither begins nor ends with such a
character. -/
theorem trimBy_eq_iff {drop : Char → Bool} {text inner : List Char} :
    trimBy drop text = inner ↔ ∃ before after, text = before ++ (inner ++ after) ∧
      (∀ c ∈ before, drop c = true) ∧ (∀ c ∈ after, drop c = true) ∧
      (∀ c ∈ inner.head?, drop c = false) ∧ ∀ c ∈ inner.getLast?, drop c = false := by
  constructor
  · intro trimmed
    have joined : inner ++ ((text.dropWhile drop).reverse.takeWhile drop).reverse =
        text.dropWhile drop := by
      rw [← trimmed, trimBy, ← List.reverse_append, List.takeWhile_append_dropWhile,
        List.reverse_reverse]
    refine ⟨text.takeWhile drop, ((text.dropWhile drop).reverse.takeWhile drop).reverse,
      ?_, List.all_eq_true.mp List.all_takeWhile, ?_, ?_, ?_⟩
    · rw [joined, List.takeWhile_append_dropWhile]
    · intro c member
      exact List.all_eq_true.mp List.all_takeWhile c (List.mem_reverse.mp member)
    · intro c first
      have front : c ∈ (text.dropWhile drop).head? := by
        rw [← joined, List.head?_append, Option.mem_def.mp first]
        rfl
      exact not_drop_of_mem_head? c front
    · rw [← trimmed, trimBy, List.getLast?_reverse]
      exact not_drop_of_mem_head?
  · rintro ⟨before, after, rfl, droppedBefore, droppedAfter, first, last⟩
    have back : (inner ++ after).reverse.dropWhile drop = inner.reverse := by
      rw [List.reverse_append]
      apply dropWhile_append_of_forall
      · simpa using droppedAfter
      · simpa using last
    cases inner with
    | nil =>
      have whole : (before ++ after ++ []).dropWhile drop = [] := by
        apply dropWhile_append_of_forall
        · intro c member
          exact (List.mem_append.mp member).elim (droppedBefore c) (droppedAfter c)
        · simp
      rw [List.append_nil] at whole
      rw [trimBy, List.nil_append, whole]
      rfl
    | cons c rest =>
      have front : (before ++ (c :: rest ++ after)).dropWhile drop = c :: rest ++ after :=
        dropWhile_append_of_forall droppedBefore first
      rw [trimBy, front, back, List.reverse_reverse]

theorem trimBy_trimBy (drop : Char → Bool) (text : List Char) :
    trimBy drop (trimBy drop text) = trimBy drop text := by
  obtain ⟨before, after, -, -, -, first, last⟩ := trimBy_eq_iff.mp (Eq.refl (trimBy drop text))
  exact trimBy_eq_iff.mpr ⟨[], [], by simp, by simp, by simp, first, last⟩

end Offload.Text
