import Offload.Text.Split

/-! # Blank characters

The characters with the Unicode property White_Space. They delimit the words of a configured flag
list, are trimmed around the parts of a target specification, and force quotes around an argument
of a displayed command. Core's own class knows ASCII only, so the table is written out.
-/

namespace Offload.Text

/-- The characters with the Unicode property White_Space. -/
def isBlank (c : Char) : Bool :=
  let code := c.toNat
  (0x09 ≤ code && code ≤ 0x0D) || code == 0x20 || code == 0x85 || code == 0xA0 || code == 0x1680
    || (0x2000 ≤ code && code ≤ 0x200A) || code == 0x2028 || code == 0x2029 || code == 0x202F
    || code == 0x205F || code == 0x3000

/-- Core's class of ASCII blanks is contained in the table. -/
theorem isBlank_of_isWhitespace {c : Char} (ascii : c.isWhitespace = true) : isBlank c = true := by
  simp only [Char.isWhitespace, Bool.or_eq_true, decide_eq_true_eq] at ascii
  rcases ascii with ((rfl | rfl) | rfl) | rfl <;> decide

/-- The code points of letters and digits. -/
theorem ranges_of_isAlphanum {c : Char} (plain : c.isAlphanum = true) :
    ((65 ≤ c.toNat ∧ c.toNat ≤ 90) ∨ (97 ≤ c.toNat ∧ c.toNat ≤ 122)) ∨
      (48 ≤ c.toNat ∧ c.toNat ≤ 57) := by
  have inRange : ((decide (65 ≤ c.val ∧ c.val ≤ 90) || decide (97 ≤ c.val) && decide (c.val ≤ 122)) ||
      decide (48 ≤ c.val) && decide (c.val ≤ 57)) = true := plain
  simp only [Bool.or_eq_true, Bool.and_eq_true, decide_eq_true_eq, UInt32.le_iff_toNat_le] at inRange
  exact inRange

/-- Letters and digits are not blank. -/
theorem not_isBlank_of_isAlphanum {c : Char} (plain : c.isAlphanum = true) : isBlank c = false := by
  have ranges := ranges_of_isAlphanum plain
  simp only [isBlank, Bool.or_eq_false_iff, Bool.and_eq_false_iff, beq_eq_false_iff_ne,
    decide_eq_false_iff_not]
  omega

example : ((List.range 0x100).map Char.ofNat).filter isBlank =
    ['\t', '\n', '\x0B', '\x0C', '\r', ' ', '\u0085', '\u00A0'] := by
  decide +kernel

/-- Text without the blanks at either end. -/
def trim (text : List Char) : List Char :=
  trimBy isBlank text

/-- Blanks in front of a text that holds none are all that trimming takes away. -/
theorem trim_append {blanks text : List Char} (blank : ∀ c ∈ blanks, isBlank c = true)
    (compact : ∀ c ∈ text, isBlank c = false) : trim (blanks ++ text) = text := by
  apply trimBy_eq_iff.mpr
  refine ⟨blanks, [], by rw [List.append_nil], blank, by simp, ?_, ?_⟩
  · exact fun c first => compact c (List.mem_of_head? first)
  · exact fun c last => compact c (List.mem_of_getLast? last)

theorem trim_of_compact {text : List Char} (compact : ∀ c ∈ text, isBlank c = false) :
    trim text = text :=
  @trim_append [] text (by simp) compact

/-- Trimming leaves nothing of a blank text. -/
theorem trim_eq_nil_iff {text : List Char} : trim text = [] ↔ ∀ c ∈ text, isBlank c = true := by
  constructor
  · intro trimmed
    obtain ⟨before, after, rfl, blankBefore, blankAfter, -⟩ := trimBy_eq_iff.mp trimmed
    intro c member
    exact (List.mem_append.mp member).elim (blankBefore c) (blankAfter c)
  · intro blank
    exact trimBy_eq_iff.mpr ⟨text, [], by simp, blank, by simp, by simp, by simp⟩

/-- Trimming takes nothing away from a beginning that holds no blank. -/
theorem prefix_trim_append {front : List Char} (nonempty : front ≠ [])
    (compact : ∀ c ∈ front, isBlank c = false) (rest : List Char) :
    front <+: trim (front ++ rest) := by
  generalize trimmed : trim (front ++ rest) = inner
  obtain ⟨before, after, split, blankBefore, blankAfter, -⟩ := trimBy_eq_iff.mp trimmed
  have apart {c : Char} (inFront : c ∈ front) : ¬ isBlank c = true :=
    Bool.eq_false_iff.mp (compact c inFront)
  cases before with
  | cons blank before =>
    obtain ⟨first, others, rfl⟩ := List.exists_cons_of_ne_nil nonempty
    obtain ⟨rfl, -⟩ := List.cons.inj split
    exact absurd (blankBefore first (List.mem_cons_self ..)) (apart (List.mem_cons_self ..))
  | nil =>
    rw [List.nil_append] at split
    rcases List.append_eq_append_iff.mp split with ⟨more, isInner, -⟩ | ⟨more, isFront, isAfter⟩
    · exact ⟨more, isInner.symm⟩
    · cases more with
      | nil => exact ⟨[], by rw [isFront, List.append_nil, List.append_nil]⟩
      | cons blank more =>
        have dropped := blankAfter blank (by rw [isAfter]; exact List.mem_cons_self ..)
        exact absurd dropped (apart (by rw [isFront]; simp))

/-- The maximal runs of characters that are not blank. -/
def words (text : List Char) : List (List Char) :=
  (fieldsBy isBlank text).filter (!·.isEmpty)

/-- A word is never empty. -/
theorem ne_nil_of_mem_words {text word : List Char} (member : word ∈ words text) : word ≠ [] := by
  simp only [words, List.mem_filter, Bool.not_eq_true', List.isEmpty_eq_false_iff] at member
  exact member.2

/-- A word holds no blank. -/
theorem not_isBlank_of_mem_words {text word : List Char} (member : word ∈ words text) :
    ∀ c ∈ word, isBlank c = false :=
  not_isSeparator_of_mem_fieldsBy (List.mem_filter.mp member).1

end Offload.Text
