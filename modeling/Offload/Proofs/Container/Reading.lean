import Offload.Proofs.Container.Line

/-! # Reading trees

A written tree is read back with every label as its line gives it: names and values lose a carriage
return at their end, and values that denote integers become integers (`ofText_text`). Conversely the
labels of any tree that is read come from lines of the text (`everywhere_of_ofText`).
-/

namespace Offload.Container

open Offload.Text (lines.chomp)

namespace Node

/-- A tree as its lines give it back. -/
def restored (node : Node) : Node :=
  node.relabel chompName chompValue

section Lines

/-- A line of a node is the line of an attribute or a bracket, of the node or of one below it. -/
inductive IsLineOf (node : Node) : List Char → Prop where
  | entry {below : Node} {entry : String × Value} (inside : below ∈ node.preorder)
    (member : entry ∈ below.attributes) : IsLineOf node (attributeLine below.depth entry)
  | opening {below child : Node} (inside : below ∈ node.preorder)
    (member : child ∈ below.children) : IsLineOf node (openingLine below.depth child.name)
  | closing {below child : Node} (inside : below ∈ node.preorder)
    (member : child ∈ below.children) : IsLineOf node (closingLine below.depth child.name)

theorem IsLineOf.of_child {node child : Node} {line : List Char} (isLine : child.IsLineOf line)
    (member : child ∈ node.children) : node.IsLineOf line := by
  have inside {below : Node} (here : below ∈ child.preorder) : below ∈ node.preorder :=
    mem_preorder_of_child member here
  cases isLine with
  | entry here member => exact .entry (inside here) member
  | opening here below => exact .opening (inside here) below
  | closing here below => exact .closing (inside here) below

theorem mem_childLines {depth : Nat} {children : List Node} {line : List Char}
    (member : line ∈ childLines depth children) : ∃ child ∈ children,
      line = openingLine depth child.name ∨ line ∈ child.lines ∨
        line = closingLine depth child.name := by
  induction children with
  | nil => contradiction
  | cons child rest ih =>
    rw [childLines, List.cons_append] at member
    rcases List.mem_cons.mp member with opening | later
    · exact ⟨child, List.mem_cons_self .., .inl opening⟩
    · rcases List.mem_append.mp later with inside | later
      · exact ⟨child, List.mem_cons_self .., .inr (.inl inside)⟩
      · rcases List.mem_cons.mp later with closing | later
        · exact ⟨child, List.mem_cons_self .., .inr (.inr closing)⟩
        · obtain ⟨other, inRest, which⟩ := ih later
          exact ⟨other, List.mem_cons_of_mem _ inRest, which⟩

theorem isLineOf_of_mem_lines (node : Node) :
    ∀ line ∈ node.lines, node.IsLineOf line := by
  induction node using induction with
  | step name depth attributes children ih =>
    intro line member
    have self := self_mem_preorder ⟨name, depth, attributes, children⟩
    rw [lines] at member
    rcases List.mem_append.mp member with own | later
    · obtain ⟨entry, inAttributes, rfl⟩ := List.mem_map.mp own
      exact .entry self inAttributes
    · obtain ⟨child, inChildren, rfl | inside | rfl⟩ := mem_childLines later
      · exact .opening self inChildren
      · exact (ih child inChildren line inside).of_child inChildren
      · exact .closing self inChildren

end Lines

end Node

namespace OpenNode

open Node

section Written

/-- A node that can be read back: its attributes were checked, and their keys can begin a line. -/
structure Legible (node : Node) : Prop extends node.Sound where
  keys : ∀ entry ∈ node.attributes, LegibleKey entry.1

/-- Entries written one after another as their lines give them back. -/
def putAll (read attributes : Attributes) : Attributes :=
  attributes.foldl (fun read entry => read.put entry.1 (chompValue entry.2)) read

theorem readLines_attributes {attributes : Attributes}
    (checked : ∀ entry ∈ attributes, checkAttribute entry.1 entry.2 = .ok ())
    (keys : ∀ entry ∈ attributes, LegibleKey entry.1)
    (number depth : Nat) (inner : OpenNode) (outer : List OpenNode) (rest : List (List Char)) :
    readLines number inner outer
        ((attributes.map (attributeLine depth)).map lines.chomp ++ rest) =
      readLines (number + attributes.length)
        { inner with attributes := putAll inner.attributes attributes } outer rest := by
  induction attributes generalizing number inner with
  | nil => rfl
  | cons entry attributes ih =>
    have accepted := checked entry (List.mem_cons_self ..)
    have legible := keys entry (List.mem_cons_self ..)
    rw [List.map_cons, List.map_cons, List.cons_append, readLines,
      Line.ofChars_attributeLine depth legible accepted]
    simp only [Line.checkAttribute_chompValue accepted]
    rw [ih (fun other member => checked other (List.mem_cons_of_mem _ member))
      (fun other member => keys other (List.mem_cons_of_mem _ member)), List.length_cons,
      Nat.add_assoc, Nat.add_comm 1]
    rfl

theorem put_eq_append {read : Attributes} {key : String} (fresh : key ∉ read.map (·.1))
    (value : Value) : read.put key value = read ++ [(key, value)] := by
  induction read with
  | nil => rfl
  | cons known read ih =>
    obtain ⟨differs, freshRead⟩ := not_or.mp (mt List.mem_cons.mpr fresh)
    rw [Attributes.put, if_neg (Ne.symm differs), ih freshRead, List.cons_append]

/-- Entries with new and distinct keys are appended. -/
theorem putAll_eq_append {read attributes : Attributes}
    (distinct : (read.map (·.1) ++ attributes.map (·.1)).Nodup) :
    putAll read attributes =
      read ++ attributes.map fun entry => (entry.1, chompValue entry.2) := by
  induction attributes generalizing read with
  | nil => simp [putAll]
  | cons entry attributes ih =>
    have fresh : entry.1 ∉ read.map (·.1) := fun known =>
      (List.nodup_append.mp distinct).2.2 _ known _ (List.mem_cons_self ..) rfl
    change putAll (read.put entry.1 (chompValue entry.2)) attributes = _
    rw [put_eq_append fresh, ih (by simpa using distinct)]
    simp

/-- Children between their brackets are read into the node around them. -/
theorem readLines_childLines {depth : Nat} {children : List Node}
    (deeper : ∀ child ∈ children, child.depth = depth + 1)
    (each : ∀ child ∈ children, ∀ number name outer rest,
      readLines number (.bare name child.depth) outer (child.lines.map lines.chomp ++ rest) =
        readLines (number + child.lines.length)
          ⟨name, child.depth, child.restored.attributes, child.restored.children.reverse⟩ outer rest)
    (number : Nat) (inner : OpenNode) (here : inner.depth = depth) (outer : List OpenNode)
    (rest : List (List Char)) :
    readLines number inner outer ((childLines depth children).map lines.chomp ++ rest) =
      readLines (number + (childLines depth children).length)
        { inner with children := (children.map restored).reverse ++ inner.children } outer rest := by
  induction children generalizing number inner with
  | nil => rfl
  | cons child children ih =>
    have level : inner.depth + 1 = child.depth := by
      rw [here, deeper child (List.mem_cons_self ..)]
    have closed : (⟨chompName child.name, child.depth, child.restored.attributes,
        child.restored.children.reverse⟩ : OpenNode).close = child.restored := by
      rw [close, List.reverse_reverse, restored, relabel_eq]
    have later := ih (fun other member => deeper other (List.mem_cons_of_mem _ member))
      (fun other member => each other (List.mem_cons_of_mem _ member))
    rw [childLines, List.cons_append, List.map_cons, List.cons_append, readLines,
      Line.ofChars_openingLine]
    simp only [level, List.map_append, List.map_cons, List.append_assoc, List.cons_append]
    rw [each child (List.mem_cons_self ..), readLines, Line.ofChars_closingLine]
    simp only [if_true, closed]
    rw [later _ (inner.push child.restored) here]
    simp only [push, List.reverse_cons, List.append_assoc, List.singleton_append,
      List.length_cons, List.length_append]
    congr 1
    omega

/-- The lines of a node are read into an open node of which nothing was read before. -/
theorem readLines_lines (node : Node) (legible : node.Everywhere Legible) (number : Nat)
    (name : String) (outer : List OpenNode) (rest : List (List Char)) :
    readLines number (.bare name node.depth) outer (node.lines.map lines.chomp ++ rest) =
      readLines (number + node.lines.length)
        ⟨name, node.depth, node.restored.attributes, node.restored.children.reverse⟩ outer rest := by
  induction node using induction generalizing number name outer rest with
  | step own depth attributes children ih =>
    have here := legible.self
    have below : ∀ child ∈ children, child.Everywhere Legible := fun child => legible.child
    have read : putAll (bare name depth).attributes attributes = [] ++ _ :=
      putAll_eq_append here.distinct
    rw [lines, List.map_append, List.append_assoc,
      readLines_attributes here.checked here.keys, read,
      readLines_childLines here.deeper
        (fun child member number name outer rest => ih child member (below child member) _ _ _ _)
        _ _ rfl]
    simp only [bare, List.nil_append, List.append_nil, restored, relabel_eq, List.length_append,
      List.length_map, Nat.add_assoc]
    rfl

end Written

section Read

/-- Each open node is one level below the next one around it; the innermost one is at `depth`. -/
def Nested : (depth : Nat) → List OpenNode → Prop
  | _, [] => True
  | depth, parent :: others => depth = parent.depth + 1 ∧ Nested parent.depth others

/-- What holds of nodes that lines open and is kept by attributes and children that lines give holds
of the tree that is read. -/
theorem readLines_induction {good : Node → Prop} {lines : List (List Char)}
    (opening : ∀ line ∈ lines, ∀ name, Line.ofChars line = .opening name →
      ∀ depth, good (Node.bare name depth))
    (put : ∀ line ∈ lines, ∀ key value, Line.ofChars line = .attribute key value →
      checkAttribute key value = .ok () → ∀ node, good node → good (node.put key value))
    (push : ∀ parent child : Node, good parent → good child → child.depth = parent.depth + 1 →
      good (parent.push child))
    {number : Nat} {inner : OpenNode} {outer : List OpenNode} {root : Node}
    (read : readLines number inner outer lines = .ok root) (nested : Nested inner.depth outer)
    (goodInner : good inner.close) (goodOuter : ∀ node ∈ outer, good node.close) : good root := by
  induction lines generalizing number inner outer with
  | nil =>
    rw [readLines] at read
    split at read
    · obtain rfl := Except.ok.inj read
      exact goodInner
    · contradiction
  | cons line rest ih =>
    have later {number : Nat} {inner : OpenNode} {outer : List OpenNode} :
        readLines number inner outer rest = .ok root → Nested inner.depth outer → good inner.close →
          (∀ node ∈ outer, good node.close) → good root :=
      ih (fun other member => opening other (List.mem_cons_of_mem _ member))
        (fun other member => put other (List.mem_cons_of_mem _ member))
    have here := List.mem_cons_self (a := line) (l := rest)
    rw [readLines] at read
    match means : Line.ofChars line with
    | .blank =>
      rw [means] at read
      exact later read nested goodInner goodOuter
    | .opening name =>
      rw [means] at read
      refine later read ⟨rfl, nested⟩ (opening line here name means _) fun node member => ?_
      rcases List.mem_cons.mp member with rfl | around
      · exact goodInner
      · exact goodOuter node around
    | .closing name =>
      rw [means] at read
      cases outer with
      | nil => contradiction
      | cons parent others =>
        simp only at read
        split at read
        · have goodParent := goodOuter parent (List.mem_cons_self ..)
          refine later read nested.2 ?_ fun node member =>
            goodOuter node (List.mem_cons_of_mem _ member)
          rw [close_push]
          exact push parent.close inner.close goodParent goodInner nested.1
        · contradiction
    | .attribute key value =>
      rw [means] at read
      cases accepted : checkAttribute key value with
      | error fault => simp [accepted] at read
      | ok =>
        simp only [accepted] at read
        exact later read nested (put line here key value means accepted _ goodInner) goodOuter
    | .keyless => rw [means] at read; contradiction
    | .unknown text => rw [means] at read; contradiction

end Read

end OpenNode

namespace Node

open OpenNode (Legible readLines_lines readLines_induction)

/-- An attribute that may be written stays on its line. -/
theorem lineFeed_notMem_attributeLine {entry : String × Value}
    (accepted : checkAttribute entry.1 entry.2 = .ok ()) (depth : Nat) :
    '\n' ∉ attributeLine depth entry := by
  obtain ⟨key, value⟩ := entry
  obtain ⟨⟨-, -, keyFree⟩, textFree⟩ := checkAttribute_eq_ok_iff.mp accepted
  have valueFree : '\n' ∉ value.display := by
    cases value with
    | int n =>
      intro lineFeed
      rcases Text.Decimal.mem_ofInt64 lineFeed with minus | digit <;> contradiction
    | text content => exact textFree content rfl
  simp only at keyFree
  simp [attributeLine, indent, keyFree, valueFree]

/-- The lines of a tree without line feeds in its names have none inside them. -/
theorem lineFeed_notMem_of_isLineOf {node : Node} (sound : node.Everywhere Sound)
    (names : node.Everywhere fun below => ∀ child ∈ below.children, '\n' ∉ child.name.toList)
    {line : List Char} (isLine : node.IsLineOf line) : '\n' ∉ line := by
  have bracket {depth : Nat} {mark : Char} {name : String} (noFeed : '\n' ≠ mark)
      (free : '\n' ∉ name.toList) : '\n' ∉ indent depth ++ mark :: '.' :: name.toList := by
    simp [indent, noFeed, free]
  cases isLine with
  | entry inside member =>
    exact lineFeed_notMem_attributeLine ((sound _ inside).checked _ member) _
  | opening inside member => exact bracket (by decide) (names _ inside _ member)
  | closing inside member => exact bracket (by decide) (names _ inside _ member)

/-- A tree whose labels stay on their lines is read back from its text, each label as its line gives
it. -/
theorem ofText_text {node : Node} (name : node.name = root.name) (depth : node.depth = root.depth)
    (legible : node.Everywhere Legible)
    (names : node.Everywhere fun below => ∀ child ∈ below.children, '\n' ∉ child.name.toList) :
    ofText node.text = .ok node.restored := by
  have free : ∀ line ∈ node.lines, '\n' ∉ line := fun line member =>
    lineFeed_notMem_of_isLineOf (legible.imp fun _ => Legible.toSound) names
      (isLineOf_of_mem_lines node line member)
  have rootName : chompName root.name = root.name := by decide
  unfold ofText text
  rw [Text.lines_flatMap free, ← depth, ← List.append_nil (node.lines.map _),
    readLines_lines node legible]
  simp only [OpenNode.readLines, List.isEmpty_nil, if_true, OpenNode.close, List.reverse_reverse,
    restored, relabel_eq, name, rootName]

/-- What lines give to the nodes of a tree holds of every tree that is read from a text. -/
theorem induction_of_ofText {good : Node → Prop} {text : List Char} {node : Node}
    (read : ofText text = .ok node) (root : good root)
    (opening : ∀ line ∈ Text.lines text, ∀ name, Line.ofChars line = .opening name →
      ∀ depth, good (bare name depth))
    (put : ∀ line ∈ Text.lines text, ∀ key value, Line.ofChars line = .attribute key value →
      checkAttribute key value = .ok () → ∀ node, good node → good (node.put key value))
    (push : ∀ parent child : Node, good parent → good child → child.depth = parent.depth + 1 →
      good (parent.push child)) : good node :=
  readLines_induction opening put push read trivial root
    fun _ member => absurd member List.not_mem_nil

end Node

end Offload.Container
