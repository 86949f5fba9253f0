import Offload.Proofs.Container.Reading
import Offload.Proofs.Text.Utf8

/-! # Where the tree ends

The tree ends at the first occurrence of the marker. No line feed is in the marker and every written
line ends with one, so in a serialized bundle that first occurrence is the marker itself unless a
label holds it. Conversely no label of a bundle that is read holds the marker.
-/

namespace Offload.Container

open Offload.Text.Utf8 (encode)

section First

/-- A byte sequence is split where the mark first stands. -/
theorem splitAtMark_eq_some_iff {mark data front back : List UInt8} (nonempty : mark ≠ []) :
    splitAtMark mark data = some (front, back) ↔
      data = front ++ mark ++ back ∧ ∀ i < front.length, ¬ mark <+: data.drop i := by
  induction data generalizing front with
  | nil => simp [splitAtMark, nonempty]
  | cons byte rest ih =>
    unfold splitAtMark
    by_cases begins : mark <+: byte :: rest
    · rw [if_pos (List.isPrefixOf_iff_prefix.mpr begins)]
      simp only [Option.some.injEq, Prod.mk.injEq]
      constructor
      · rintro ⟨rfl, rfl⟩
        exact ⟨(List.prefix_iff_eq_append.mp begins).symm, fun i small => absurd small (by simp)⟩
      · rintro ⟨split, first⟩
        obtain rfl : front = [] := by
          by_contra some
          exact first 0 (List.length_pos_iff.mpr some) begins
        rw [split, List.nil_append, List.drop_left]
        exact ⟨rfl, rfl⟩
    · rw [if_neg (mt List.isPrefixOf_iff_prefix.mp begins)]
      simp only [Option.map_eq_some_iff, Prod.mk.injEq, Prod.exists]
      constructor
      · rintro ⟨front, back, found, rfl, rfl⟩
        obtain ⟨split, first⟩ := ih.mp found
        refine ⟨by rw [split]; rfl, ?_⟩
        intro i small
        cases i with
        | zero => exact begins
        | succ i => exact first i (by simpa using small)
      · rintro ⟨split, first⟩
        cases front with
        | nil => exact absurd ⟨back, split.symm⟩ begins
        | cons other front =>
          obtain ⟨rfl, same⟩ := List.cons.inj split
          refine ⟨front, back, ih.mpr ⟨same, ?_⟩, rfl, rfl⟩
          intro i small
          exact first (i + 1) (by simpa using small)

/-- Nothing before the first occurrence holds the mark. -/
theorem not_infix_of_splitAtMark {mark data front back : List UInt8} (nonempty : mark ≠ [])
    (found : splitAtMark mark data = some (front, back)) : ¬ mark <:+: front := by
  rintro ⟨before, after, inside⟩
  obtain ⟨split, first⟩ := (splitAtMark_eq_some_iff nonempty).mp found
  have position : before.length < front.length := by
    have some := List.length_pos_iff.mpr nonempty
    rw [← inside]
    simp only [List.length_append]
    omega
  apply first before.length position
  rw [split, ← inside]
  simp only [List.append_assoc, List.drop_left]
  exact List.prefix_append _ _

theorem ascii_marker : ∀ c ∈ Bundle.marker, c.toNat < 0x80 := by
  unfold Bundle.marker
  simp

theorem encode_marker_ne_nil : encode Bundle.marker ≠ [] := by decide

private theorem lineFeed_notMem_encode_marker : 10 ∉ encode Bundle.marker := by decide

/-- A text of whole lines without the marker ends where the marker is put behind it. -/
theorem splitAtMark_encode {text : List Char} (free : ¬ Bundle.marker <:+: text)
    (whole : text = [] ∨ ∃ body, text = body ++ ['\n']) (appendix : List UInt8) :
    splitAtMark (encode Bundle.marker) (encode (text ++ Bundle.marker) ++ appendix) =
      some (encode text, appendix) := by
  rw [splitAtMark_eq_some_iff encode_marker_ne_nil, Text.Utf8.encode_append]
  refine ⟨rfl, ?_⟩
  intro i small begins
  rcases whole with rfl | ⟨body, rfl⟩
  · simp at small
  · rw [Text.Utf8.encode_append] at small begins
    have lineFeed : encode ['\n'] = [10] := by decide
    rw [lineFeed, List.length_append, List.length_singleton] at small
    rw [lineFeed, List.append_assoc, List.append_assoc,
      List.drop_append_of_le_length (by omega), List.singleton_append] at begins
    -- The marker cannot run across the last line feed, so an earlier occurrence is in the text.
    have inBody := Text.prefix_of_prefix_append_cons lineFeed_notMem_encode_marker begins
    have inside := Text.Utf8.infix_of_encode ascii_marker
      (inBody.isInfix.trans (List.drop_suffix i (encode body)).isInfix)
    exact free (inside.trans (List.prefix_append body ['\n']).isInfix)

end First

section Written

theorem marker_infix_of_indent {depth : Nat} {text : List Char}
    (inside : Bundle.marker <:+: Node.indent depth ++ text) : Bundle.marker <:+: text := by
  unfold Node.indent at inside
  induction depth with
  | zero => exact inside
  | succ depth ih =>
    rw [List.replicate_succ, List.cons_append,
      Text.infix_cons_iff_of_notMem (by decide) (by decide)] at inside
    exact ih inside

private theorem marker_infix_of_bracket {depth : Nat} {bracket : Char} {name : List Char}
    (free : bracket ∉ Bundle.marker)
    (inside : Bundle.marker <:+: Node.indent depth ++ bracket :: '.' :: name) :
    Bundle.marker <:+: name := by
  have behind := marker_infix_of_indent inside
  rwa [Text.infix_cons_iff_of_notMem free (by decide),
    Text.infix_cons_iff_of_notMem (by decide) (by decide)] at behind

theorem not_marker_infix_ofInt64 (n : Int64) : ¬ Bundle.marker <:+: Text.Decimal.ofInt64 n := by
  intro inside
  have letter : 'a' ∈ Bundle.marker := by decide
  rcases Text.Decimal.mem_ofInt64 (inside.mem letter) with minus | digit <;> contradiction

/-- The marker is on no line of a tree without it in its labels. -/
theorem not_marker_infix_of_isLineOf {node : Node}
    (names : node.Everywhere fun below => ∀ child ∈ below.children,
      ¬ Bundle.marker <:+: child.name.toList)
    (keys : node.Everywhere fun below => ∀ entry ∈ below.attributes,
      ¬ Bundle.marker <:+: entry.1.toList)
    (texts : node.Everywhere fun below => ∀ key content, (key, .text content) ∈ below.attributes →
      ¬ Bundle.marker <:+: content.toList)
    {line : List Char} (isLine : node.IsLineOf line) : ¬ Bundle.marker <:+: line := by
  intro inside
  cases isLine with
  | @entry below entry here member =>
    rcases (Text.infix_append_cons_iff (by decide)).mp inside with inKey | inValue
    · exact keys below here entry member (marker_infix_of_indent inKey)
    · obtain ⟨key, value⟩ := entry
      cases value with
      | int n => exact not_marker_infix_ofInt64 n inValue
      | text content => exact texts below here key content member inValue
  | opening here member => exact names _ here _ member (marker_infix_of_bracket (by decide) inside)
  | closing here member => exact names _ here _ member (marker_infix_of_bracket (by decide) inside)

theorem exists_line_of_marker_infix {lines : List (List Char)}
    (inside : Bundle.marker <:+: lines.flatMap (· ++ ['\n'])) :
    ∃ line ∈ lines, Bundle.marker <:+: line := by
  induction lines with
  | nil => exact absurd (List.infix_nil.mp inside) (by decide)
  | cons line rest ih =>
    rw [List.flatMap_cons, List.append_assoc, List.singleton_append,
      Text.infix_append_cons_iff (by decide)] at inside
    rcases inside with here | later
    · exact ⟨line, List.mem_cons_self .., here⟩
    · obtain ⟨other, member, inOther⟩ := ih later
      exact ⟨other, List.mem_cons_of_mem _ member, inOther⟩

/-- The text of a tree is whole lines. -/
theorem text_whole (node : Node) : node.text = [] ∨ ∃ body, node.text = body ++ ['\n'] := by
  unfold Node.text
  rcases List.eq_nil_or_concat node.lines with none | ⟨front, last, lines⟩
  · exact .inl (by rw [none]; rfl)
  · exact .inr ⟨front.flatMap (· ++ ['\n']) ++ last, by simp [lines]⟩

end Written

end Offload.Container
