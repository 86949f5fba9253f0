import Offload.Proofs.Container.Marker
import Offload.Proofs.Except

/-! # Labels that survive

`Node.Clean` lists what the names, keys and texts of a tree must avoid to be read back as they were
written. `parse_serialize` says that this suffices, up to texts that denote integers;
`clean_of_parse_serialize` says that nothing less does, since `everywhere_plain_of_parse` limits what
any bundle that is read can hold.
-/

namespace Offload.Container

open Offload.Text (lines.chomp)
open Offload.Text.Decimal (IsInt64)

/-- A name that is read back from its brackets. -/
structure CleanName (name : String) : Prop where
  lineFeed : '\n' ∉ name.toList
  carriageReturn : name.toList.getLast? ≠ some '\r'
  marker : ¬ Bundle.marker <:+: name.toList

/-- A key that is read back from its line. -/
structure CleanKey (key : String) : Prop extends LegibleKey key where
  marker : ¬ Bundle.marker <:+: key.toList

/-- A text that is read back from its line, as itself or as the integer it denotes. -/
structure CleanText (content : String) : Prop where
  carriageReturn : content.toList.getLast? ≠ some '\r'
  marker : ¬ Bundle.marker <:+: content.toList

/-- A value that is read back from its line, up to the integer a text denotes. -/
def Value.Clean : Value → Prop
  | .int _ => True
  | .text content => CleanText content

/-- A text that denotes an integer, and is read back as one. -/
def Value.Ambiguous : Value → Prop
  | .int _ => False
  | .text content => IsInt64 content.toList

/-- A tree all of whose labels are read back. The name of its first node is not written. -/
structure Node.Clean (root : Node) : Prop where
  names : ∀ node ∈ Node.preorderAll root.children, CleanName node.name
  keys : ∀ node ∈ root.preorder, ∀ entry ∈ node.attributes, CleanKey entry.1
  values : ∀ node ∈ root.preorder, ∀ entry ∈ node.attributes, entry.2.Clean

section Decidable

instance (name : String) : Decidable (CleanName name) :=
  decidable_of_iff ('\n' ∉ name.toList ∧ name.toList.getLast? ≠ some '\r' ∧
      ¬ Bundle.marker <:+: name.toList)
    ⟨fun ⟨feed, ends, mark⟩ => ⟨feed, ends, mark⟩, fun ⟨feed, ends, mark⟩ => ⟨feed, ends, mark⟩⟩

instance (key : String) : Decidable (CleanKey key) :=
  decidable_of_iff ((key.toList.head? ≠ some ' ' ∧ ¬ ['{', '.'] <+: key.toList ∧
      ¬ ['}', '.'] <+: key.toList) ∧ ¬ Bundle.marker <:+: key.toList)
    ⟨fun ⟨⟨space, opens, closes⟩, mark⟩ => ⟨⟨space, opens, closes⟩, mark⟩,
      fun ⟨⟨space, opens, closes⟩, mark⟩ => ⟨⟨space, opens, closes⟩, mark⟩⟩

instance (content : String) : Decidable (CleanText content) :=
  decidable_of_iff (content.toList.getLast? ≠ some '\r' ∧ ¬ Bundle.marker <:+: content.toList)
    ⟨fun ⟨ends, mark⟩ => ⟨ends, mark⟩, fun ⟨ends, mark⟩ => ⟨ends, mark⟩⟩

instance : DecidablePred Value.Clean
  | .int _ => inferInstanceAs (Decidable True)
  | .text content => inferInstanceAs (Decidable (CleanText content))

instance : DecidablePred Value.Ambiguous
  | .int _ => inferInstanceAs (Decidable False)
  | .text content => inferInstanceAs (Decidable (IsInt64 content.toList))

instance (root : Node) : Decidable root.Clean :=
  decidable_of_iff ((∀ node ∈ Node.preorderAll root.children, CleanName node.name) ∧
      (∀ node ∈ root.preorder, ∀ entry ∈ node.attributes, CleanKey entry.1) ∧
      ∀ node ∈ root.preorder, ∀ entry ∈ node.attributes, entry.2.Clean)
    ⟨fun ⟨names, keys, values⟩ => ⟨names, keys, values⟩,
      fun ⟨names, keys, values⟩ => ⟨names, keys, values⟩⟩

end Decidable

/-- A tree whose written labels stay on their lines and apart from the marker. -/
structure Node.Separable (root : Node) : Prop where
  names : ∀ node ∈ Node.preorderAll root.children,
    '\n' ∉ node.name.toList ∧ ¬ Bundle.marker <:+: node.name.toList
  keys : ∀ node ∈ root.preorder, ∀ entry ∈ node.attributes, CleanKey entry.1
  texts : ∀ node ∈ root.preorder, ∀ key content, (key, Value.text content) ∈ node.attributes →
    ¬ Bundle.marker <:+: content.toList

/-- A value as it is read back: a text that denotes an integer becomes that integer. -/
def Value.reread : Value → Value
  | .int n => .int n
  | .text content => .ofChars content.toList

/-- A tree as it is read back: every text that denotes an integer becomes that integer. -/
def Node.reread (node : Node) : Node :=
  node.relabel id Value.reread

section Labels

theorem chompName_eq_self_iff {name : String} :
    chompName name = name ↔ name.toList.getLast? ≠ some '\r' := by
  rw [← Text.chomp_eq_self_iff]
  unfold chompName
  constructor
  · intro same
    rw [← String.toList_inj, String.toList_ofList] at same
    exact same
  · intro same
    rw [same, String.ofList_toList]

theorem Value.reread_eq_self_iff {value : Value} : value.reread = value ↔ ¬ value.Ambiguous := by
  cases value with
  | int n => exact iff_of_true rfl id
  | text content =>
    change Value.ofChars content.toList = _ ↔ ¬ IsInt64 content.toList
    constructor
    · rintro same ⟨n, denotes⟩
      rw [Value.ofChars_of_isInt64 denotes] at same
      contradiction
    · intro noInteger
      rw [Value.ofChars_of_not_isInt64 noInteger, String.ofList_toList]

theorem Node.reread_eq_self_iff (node : Node) : node.reread = node ↔
    node.Everywhere fun below => ∀ entry ∈ below.attributes, ¬ entry.2.Ambiguous := by
  conv_lhs => rhs; rw [← Node.relabel_id node]
  unfold Node.reread
  rw [Node.relabel_eq_relabel_iff]
  simp only [true_and, id_eq, Value.reread_eq_self_iff]

/-- Text that denotes an integer holds signs and digits only. -/
theorem not_isInt64_of_mem {text : List Char} {c : Char} (member : c ∈ text)
    (noDigit : c.isDigit = false) (noSign : c ≠ '-' ∧ c ≠ '+') : ¬ IsInt64 text := by
  rintro ⟨n, denotes⟩
  have digits {digits : List Char} (run : Text.Decimal.IsDigits digits) : c ∉ digits := by
    intro inside
    rw [run.2 c inside] at noDigit
    contradiction
  generalize n.toInt = value at denotes
  cases denotes with
  | plain run => exact digits run member
  | plus run => exact (List.mem_cons.mp member).elim noSign.2 (digits run)
  | minus run => exact (List.mem_cons.mp member).elim noSign.1 (digits run)

/-- A text loses nothing on its line unless it ends in a carriage return. -/
theorem chompValue_text_eq_reread_iff {content : String} :
    chompValue (.text content) = (Value.text content).reread ↔
      content.toList.getLast? ≠ some '\r' := by
  change Value.ofChars (lines.chomp content.toList) = Value.ofChars content.toList ↔ _
  constructor
  · intro same ends
    rw [Value.ofChars_of_not_isInt64 (not_isInt64_of_mem (List.mem_of_mem_getLast? ends)
      (by decide) (by decide))] at same
    unfold Value.ofChars at same
    split at same
    · contradiction
    · have whole := Value.text.inj same
      rw [String.ofList_inj] at whole
      exact Text.chomp_eq_self_iff.mp whole ends
  · intro ends
    rw [Text.chomp_eq_self_iff.mpr ends]

theorem chompValue_int (n : Int64) : chompValue (.int n) = .int n := by
  have ends : (Text.Decimal.ofInt64 n).getLast? ≠ some '\r' := by
    intro ends
    rcases Text.Decimal.mem_ofInt64 (List.mem_of_mem_getLast? ends) with minus | digit <;>
      contradiction
  change Value.ofChars (lines.chomp (Text.Decimal.ofInt64 n)) = _
  rw [Text.chomp_eq_self_iff.mpr ends]
  exact Value.ofChars_of_isInt64 (Text.Decimal.denotes_ofInt64 n)

/-- Labels are clean if they are separable and their lines change nothing but texts that denote
integers: what remains to be excluded is a carriage return at the end. -/
theorem Node.clean_iff {root : Node} (name : root.name = Node.root.name) :
    root.Clean ↔ root.Separable ∧ root.restored = root.reread := by
  unfold Node.restored Node.reread
  rw [Node.relabel_eq_relabel_iff]
  constructor
  · intro clean
    refine ⟨⟨?_, clean.keys, ?_⟩, fun node inside => ⟨?_, ?_⟩⟩
    · intro node inside
      exact ⟨(clean.names node inside).lineFeed, (clean.names node inside).marker⟩
    · intro node inside key content member
      exact (clean.values node inside _ member).marker
    · rw [Node.preorder_eq_cons] at inside
      rcases List.mem_cons.mp inside with rfl | below
      · rw [name]
        decide
      · exact chompName_eq_self_iff.mpr (clean.names node below).carriageReturn
    · intro entry member
      obtain ⟨key, value⟩ := entry
      cases value with
      | int n => exact chompValue_int n
      | text content =>
        exact chompValue_text_eq_reread_iff.mpr (clean.values node inside _ member).carriageReturn
  · rintro ⟨separable, same⟩
    refine ⟨?_, separable.keys, ?_⟩
    · intro node inside
      obtain ⟨lineFeed, marker⟩ := separable.names node inside
      have whole := (same node (mem_preorder_of_below inside)).1
      exact ⟨lineFeed, chompName_eq_self_iff.mp whole, marker⟩
    · intro node inside entry member
      obtain ⟨key, value⟩ := entry
      cases value with
      | int n => trivial
      | text content =>
        exact ⟨chompValue_text_eq_reread_iff.mp ((same node inside).2 _ member),
          separable.texts node inside key content member⟩

end Labels

section Parsed

/-- What reading leaves in the labels of a node. -/
structure Plain (node : Node) : Prop where
  name : '\n' ∉ node.name.toList ∧ ¬ Bundle.marker <:+: node.name.toList
  keys : ∀ entry ∈ node.attributes, CleanKey entry.1
  texts : ∀ key content, (key, Value.text content) ∈ node.attributes →
    ¬ Bundle.marker <:+: content.toList ∧ ¬ IsInt64 content.toList

theorem Plain.put {node : Node} (plain : Plain node) {key : String} {value : Value}
    (clean : CleanKey key) (text : ∀ content, value = .text content →
      ¬ Bundle.marker <:+: content.toList ∧ ¬ IsInt64 content.toList) :
    Plain (node.put key value) := by
  refine ⟨plain.name, Attributes.forall_put plain.keys clean, ?_⟩
  intro other content member
  rcases Attributes.mem_put member with new | old
  · exact text content (Prod.mk.inj new).2.symm
  · exact plain.texts other content old

theorem everywhere_plain_of_ofText {text : List Char} {node : Node}
    (read : Node.ofText text = .ok node) (free : ¬ Bundle.marker <:+: text) :
    node.Everywhere Plain := by
  have piece {part line : List Char} (inside : part <:+: line) (member : line ∈ Text.lines text) :
      ¬ Bundle.marker <:+: part :=
    fun inPart => free ((inPart.trans inside).trans (Text.infix_of_mem_lines member))
  have bare {name : String} (lineFeed : '\n' ∉ name.toList)
      (marker : ¬ Bundle.marker <:+: name.toList) (depth : Nat) :
      (Node.bare name depth).Everywhere Plain :=
    Node.everywhere_bare ⟨⟨lineFeed, marker⟩, by simp [Node.bare], by simp [Node.bare]⟩
  refine Node.induction_of_ofText read (bare (by decide) (by decide) _) ?_ ?_ ?_
  · intro line member name means depth
    have suffix := Line.suffix_of_opening means
    exact bare (fun inName => Text.lineFeed_notMem_of_mem_lines member (suffix.mem inName))
      (piece suffix.isInfix member) depth
  · intro line member key value means accepted below plain
    obtain ⟨legible, inside⟩ := Line.key_of_attribute means
    apply plain.put
    apply plain.self.put ⟨legible, piece inside member⟩
    rintro content rfl
    obtain ⟨inLine, noInteger⟩ := Line.text_of_attribute means
    exact ⟨piece inLine member, noInteger⟩
  · intro parent child plainParent plainChild _
    have here := plainParent.self
    exact plainParent.push plainChild ⟨here.name, here.keys, here.texts⟩

end Parsed

namespace Bundle

theorem parse_eq_ok_iff {data : List UInt8} {bundle : Bundle} :
    parse data = .ok bundle ↔ ∃ text, splitAtMark (Text.Utf8.encode marker) data =
      some (Text.Utf8.encode text, bundle.appendix) ∧ Node.ofText text = .ok bundle.root := by
  unfold parse
  cases found : splitAtMark (Text.Utf8.encode marker) data with
  | none => simp
  | some parts =>
    obtain ⟨front, appendix⟩ := parts
    simp only [Except.bind_eq_ok_iff, Except.mapError_eq_ok_iff, Text.Utf8.decode_eq_ok_iff]
    constructor
    · rintro ⟨text, rfl, root, read, done⟩
      obtain rfl := Except.ok.inj done
      exact ⟨text, rfl, read⟩
    · rintro ⟨text, same, read⟩
      obtain ⟨rfl, rfl⟩ := Prod.mk.inj (Option.some.inj same)
      exact ⟨text, rfl, bundle.root, read, rfl⟩

/-- Whatever bytes a bundle is read from, its labels are plain. -/
theorem everywhere_plain_of_parse {data : List UInt8} {bundle : Bundle}
    (parsed : parse data = .ok bundle) : bundle.root.Everywhere Plain := by
  obtain ⟨text, found, read⟩ := parse_eq_ok_iff.mp parsed
  apply everywhere_plain_of_ofText read
  intro inside
  obtain ⟨before, after, rfl⟩ := inside
  apply not_infix_of_splitAtMark encode_marker_ne_nil found
  rw [Text.Utf8.encode_append, Text.Utf8.encode_append]
  exact ⟨_, _, rfl⟩

/-- The labels of a tree are separable if any bytes are read as that tree, up to texts that denote
integers. -/
theorem separable_of_parse {data appendix : List UInt8} {root : Node}
    (parsed : parse data = .ok ⟨root.reread, appendix⟩) : root.Separable := by
  have plain := Node.everywhere_relabel.mp (everywhere_plain_of_parse parsed)
  simp only [Node.relabel_eq] at plain
  have kept {attributes : Attributes} {entry : String × Value} (member : entry ∈ attributes) :
      (entry.1, entry.2.reread) ∈ attributes.map fun entry => (entry.1, entry.2.reread) :=
    List.mem_map_of_mem (f := fun entry => (entry.1, entry.2.reread)) member
  refine ⟨?_, ?_, ?_⟩
  · intro below inside
    exact (plain below (Node.mem_preorder_of_below inside)).name
  · intro below inside entry member
    exact (plain below inside).keys (entry.1, entry.2.reread) (kept member)
  -- A text that was replaced by an integer is not in the tree that was read, but it has no letters.
  · intro below inside key content member found
    by_cases integer : (Value.text content).Ambiguous
    · exact not_isInt64_of_mem (found.mem (by decide : 'a' ∈ marker)) (by decide) (by decide) integer
    · have text := kept member
      rw [Value.reread_eq_self_iff.mpr integer] at text
      exact ((plain below inside).texts key content text).1 found

/-- A tree with separable labels is read back from its bundle, each label as its line gives it. -/
theorem parse_serialize_restored {bundle : Bundle} (sound : bundle.Sound)
    (separable : bundle.root.Separable) :
    parse bundle.serialize = .ok ⟨bundle.root.restored, bundle.appendix⟩ := by
  have names := Node.forall_mem_preorderAll_children_iff.mp separable.names
  have legible : bundle.root.Everywhere OpenNode.Legible := by
    intro below inside
    exact ⟨sound.nodes below inside,
      fun entry member => (separable.keys below inside entry member).toLegibleKey⟩
  have free : ¬ marker <:+: bundle.root.text := by
    intro inside
    obtain ⟨line, member, inLine⟩ := exists_line_of_marker_infix inside
    exact not_marker_infix_of_isLineOf (names.imp fun _ all child member => (all child member).2)
      (fun below here entry member => (separable.keys below here entry member).marker)
      separable.texts (Node.isLineOf_of_mem_lines _ line member) inLine
  refine parse_eq_ok_iff.mpr ⟨bundle.root.text, splitAtMark_encode free (text_whole _) _, ?_⟩
  exact Node.ofText_text sound.name sound.depth legible
    (names.imp fun _ all child member => (all child member).1)

/-- A bundle with clean labels is read back, up to texts that denote integers. -/
theorem parse_serialize {bundle : Bundle} (sound : bundle.Sound) (clean : bundle.root.Clean) :
    parse bundle.serialize = .ok ⟨bundle.root.reread, bundle.appendix⟩ := by
  obtain ⟨separable, same⟩ := (Node.clean_iff sound.name).mp clean
  rw [← same]
  exact parse_serialize_restored sound separable

/-- A bundle that is read back, up to texts that denote integers, has clean labels. -/
theorem clean_of_parse_serialize {bundle : Bundle} (sound : bundle.Sound)
    (parsed : parse bundle.serialize = .ok ⟨bundle.root.reread, bundle.appendix⟩) :
    bundle.root.Clean := by
  have separable := separable_of_parse parsed
  have same := parse_serialize_restored sound separable
  rw [parsed] at same
  exact (Node.clean_iff sound.name).mpr
    ⟨separable, (Bundle.mk.inj (Except.ok.inj same)).1.symm⟩

end Bundle

end Offload.Container
