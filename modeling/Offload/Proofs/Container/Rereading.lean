import Offload.Proofs.Container.Grammar

/-! # Reading again what was read

Data need not have been written to be read, so what its tree is like is told from the lines alone:
every line leaves the open nodes sound and their labels plain (`everywhere_sound_of_ofText`). Such a
tree has separable labels, so its own text gives it back but for carriage returns at the end of names
and texts. `parse_reencoded_iff` says that these are all that can be lost.
-/

namespace Offload.Container

open Offload.Text.Decimal (IsInt64)
open Offload.Text.Utf8 (encode)

/-- What holds of every node of a tree that was read. -/
structure Node.AsRead (node : Node) : Prop where
  deeper : ∀ child ∈ node.children, child.depth = node.depth + 1
  distinct : (node.attributes.map (·.1)).Nodup
  name : '\n' ∉ node.name.toList ∧ ¬ Bundle.marker <:+: node.name.toList
  keys : ∀ entry ∈ node.attributes, entry.1.toList ≠ [] ∧ '=' ∉ entry.1.toList ∧
    '\n' ∉ entry.1.toList ∧ CleanKey entry.1
  texts : ∀ key content, (key, Value.text content) ∈ node.attributes →
    '\n' ∉ content.toList ∧ ¬ IsInt64 content.toList ∧ ¬ Bundle.marker <:+: content.toList

/-- A text that does not end in a carriage return. -/
def Value.Unreturned : Value → Prop
  | .int _ => True
  | .text content => content.toList.getLast? ≠ some '\r'

/-- A node with no name and no text that ends in a carriage return. -/
structure Node.Unreturned (node : Node) : Prop where
  name : node.name.toList.getLast? ≠ some '\r'
  values : ∀ entry ∈ node.attributes, entry.2.Unreturned

instance : DecidablePred Value.Unreturned
  | .int _ => inferInstanceAs (Decidable True)
  | .text content => inferInstanceAs (Decidable (content.toList.getLast? ≠ some '\r'))

instance (node : Node) : Decidable node.Unreturned :=
  decidable_of_iff (node.name.toList.getLast? ≠ some '\r' ∧
      ∀ entry ∈ node.attributes, entry.2.Unreturned)
    ⟨fun ⟨name, values⟩ => ⟨name, values⟩, fun ⟨name, values⟩ => ⟨name, values⟩⟩

section Trees

variable {node : Node}

theorem everywhere_sound_of_ofText {text : List Char} (read : Node.ofText text = .ok node) :
    node.Everywhere Node.Sound := by
  have bare (name : String) (depth : Nat) : (Node.bare name depth).Everywhere Node.Sound :=
    Node.everywhere_bare (Node.sound_bare name depth)
  refine Node.induction_of_ofText read (bare _ _) ?_ ?_ ?_
  · exact fun _ _ name _ depth => bare name depth
  · exact fun _ _ _ _ _ accepted _ sound => sound.put (sound.self.put accepted)
  · exact fun _ _ parent child deeper => parent.push child (parent.self.push deeper)

theorem Node.Sound.asRead (sound : node.Sound) (plain : Plain node) : node.AsRead := by
  refine ⟨sound.deeper, sound.distinct, plain.name, ?_, ?_⟩
  · intro entry member
    obtain ⟨⟨nonempty, equals, lineFeed⟩, -⟩ :=
      checkAttribute_eq_ok_iff.mp (sound.checked entry member)
    exact ⟨nonempty, equals, lineFeed, plain.keys entry member⟩
  · intro key content member
    obtain ⟨-, lineFeed⟩ := checkAttribute_eq_ok_iff.mp (sound.checked _ member)
    obtain ⟨marker, noInteger⟩ := plain.texts key content member
    exact ⟨lineFeed content rfl, noInteger, marker⟩

theorem Node.separable_of_plain (plain : node.Everywhere Plain) : node.Separable where
  names := fun below inside => (plain below (Node.mem_preorder_of_below inside)).name
  keys := fun below inside => (plain below inside).keys
  texts := fun below inside key content member => ((plain below inside).texts key content member).1

/-- A value that was read is given back by its line unless it ends in a carriage return. -/
theorem chompValue_eq_self_iff {value : Value} (plain : ¬ value.Ambiguous) :
    chompValue value = value ↔ value.Unreturned := by
  cases value with
  | int n => exact iff_of_true (chompValue_int n) trivial
  | text content =>
    have same : (Value.text content).reread = .text content := Value.reread_eq_self_iff.mpr plain
    rw [Value.Unreturned, ← chompValue_text_eq_reread_iff, same]

theorem Plain.not_ambiguous (plain : Plain node) {entry : String × Value}
    (member : entry ∈ node.attributes) : ¬ entry.2.Ambiguous := by
  obtain ⟨key, value⟩ := entry
  cases value with
  | int n => exact id
  | text content => exact (plain.texts key content member).2

/-- The lines of a plain node give back its labels exactly if none of them ends in a carriage return. -/
theorem Plain.unreturned_iff (plain : Plain node) : node.Unreturned ↔
    chompName node.name = node.name ∧ ∀ entry ∈ node.attributes, chompValue entry.2 = entry.2 := by
  have value (entry : String × Value) (member : entry ∈ node.attributes) :=
    chompValue_eq_self_iff (plain.not_ambiguous member)
  constructor
  · rintro ⟨name, values⟩
    exact ⟨chompName_eq_self_iff.mpr name, fun entry member =>
      (value entry member).mpr (values entry member)⟩
  · rintro ⟨name, values⟩
    exact ⟨chompName_eq_self_iff.mp name, fun entry member =>
      (value entry member).mp (values entry member)⟩

/-- A plain tree is given back by its lines exactly if no label in it ends in a carriage return. -/
theorem Node.restored_eq_self_iff (plain : node.Everywhere Plain) :
    node.restored = node ↔ ∀ below ∈ node.preorder, below.Unreturned := by
  conv_lhs => rhs; rw [← Node.relabel_id node]
  unfold Node.restored
  rw [Node.relabel_eq_relabel_iff]
  exact forall₂_congr fun below inside => (plain below inside).unreturned_iff.symm

end Trees

namespace Bundle

variable {data : List UInt8} {bundle : Bundle}

theorem sound_of_parse (parsed : parse data = .ok bundle) : bundle.Sound := by
  obtain ⟨root, appendix⟩ := bundle
  obtain ⟨text, -, read⟩ := parse_eq_ok_iff.mp parsed
  obtain ⟨entries, children, -, rfl⟩ := Node.ofText_eq_ok_iff.mp read
  exact ⟨rfl, rfl, everywhere_sound_of_ofText read⟩

/-- Whatever data a bundle is read from, its tree hangs from the root and is like one that was built
from labels that fit on lines. Its own text is read as the same bundle exactly if no label in it ends
in a carriage return. -/
theorem parse_reencoded_iff (parsed : parse data = .ok bundle) :
    bundle.root.name = "root" ∧ bundle.root.depth = 0 ∧
      (∀ node ∈ bundle.root.preorder, node.AsRead) ∧
      (parse (encode bundle.root.text ++ encode marker ++ bundle.appendix) = .ok bundle ↔
        ∀ node ∈ bundle.root.preorder, node.Unreturned) := by
  have sound := sound_of_parse parsed
  have plain := everywhere_plain_of_parse parsed
  have again := parse_serialize_restored sound (Node.separable_of_plain plain)
  rw [serialize, text, Text.Utf8.encode_append] at again
  refine ⟨sound.name, sound.depth, ?_, ?_⟩
  · exact fun node inside => (sound.nodes node inside).asRead (plain node inside)
  · rw [again, ← Node.restored_eq_self_iff plain, Except.ok.injEq, mk.injEq]
    exact and_iff_left rfl

/-- A bundle with one node that has one attribute. -/
def oneAttribute (content : String) : Bundle :=
  ⟨⟨"root", 0, [], [⟨"a", 1, [("k", .text content)], []⟩]⟩, [0xff]⟩

/-- A carriage return before a line feed belongs to the end of its line, a second one does not. -/
theorem parse_reencoded_carriageReturns :
    (parse (encode "\x7b.a\r\n k=v\r\n\x7d.a".toList ++ encode marker ++ [0xff]) =
        .ok (oneAttribute "v") ∧
      parse (encode (oneAttribute "v").root.text ++ encode marker ++ [0xff]) =
        .ok (oneAttribute "v")) ∧
    parse (encode "\x7b.a\r\n k=v\r\r\n\x7d.a".toList ++ encode marker ++ [0xff]) =
        .ok (oneAttribute "v\r") ∧
      parse (encode (oneAttribute "v\r").root.text ++ encode marker ++ [0xff]) ≠
        .ok (oneAttribute "v\r") := by
  have once : parse (encode "\x7b.a\r\n k=v\r\n\x7d.a".toList ++ encode marker ++ [0xff]) =
      .ok (oneAttribute "v") := rfl
  have twice : parse (encode "\x7b.a\r\n k=v\r\r\n\x7d.a".toList ++ encode marker ++ [0xff]) =
      .ok (oneAttribute "v\r") := rfl
  obtain ⟨-, -, -, again⟩ := parse_reencoded_iff once
  obtain ⟨-, -, -, lost⟩ := parse_reencoded_iff twice
  exact ⟨⟨once, again.mpr (by decide)⟩, twice, mt lost.mp (by decide)⟩

end Bundle

end Offload.Container
