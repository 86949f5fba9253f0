import Mathlib.Data.List.Basic
import Offload.Container.Node

/-! # Trees of nodes

Induction along children, properties of every node of a tree, and the three ways in which a tree is
looked at or changed elsewhere: node by node (`preorder`), at the end of a path (`at?`, `update`) and
label by label (`relabel`). `relabel_eq_relabel_iff` says that two relabelings of a tree agree
exactly when they agree on every label in it, and `at?_update_of_not_prefix` that a change at one path
is not seen at another.
-/

namespace Offload.Container.Node

section Everywhere

/-- What passes from all children to their parent holds of every node. -/
theorem induction {motive : Node → Prop}
    (step : ∀ name depth attributes children, (∀ child ∈ children, motive child) →
      motive ⟨name, depth, attributes, children⟩) : ∀ node, motive node
  | ⟨name, depth, attributes, children⟩ =>
    step name depth attributes children fun child _ => induction step child

theorem preorderAll_eq_flatMap (nodes : List Node) : preorderAll nodes = nodes.flatMap preorder := by
  induction nodes with
  | nil => rfl
  | cons node rest ih => rw [preorderAll, ih, List.flatMap_cons]

theorem preorder_eq_cons (node : Node) : node.preorder = node :: preorderAll node.children := by
  obtain ⟨name, depth, attributes, children⟩ := node
  rw [preorder]

/-- A property of a node and of everything below it. -/
def Everywhere (property : Node → Prop) (node : Node) : Prop :=
  ∀ below ∈ node.preorder, property below

variable {property other : Node → Prop}

theorem everywhere_iff {node : Node} : node.Everywhere property ↔
    property node ∧ ∀ child ∈ node.children, child.Everywhere property := by
  unfold Everywhere
  rw [preorder_eq_cons, preorderAll_eq_flatMap]
  simp only [List.mem_cons, List.mem_flatMap, forall_eq_or_imp, forall_exists_index, and_imp]
  exact and_congr_right fun _ => ⟨fun all child member below inside => all below child member inside,
    fun all below child member inside => all child member below inside⟩

theorem Everywhere.self {node : Node} (all : node.Everywhere property) : property node :=
  (everywhere_iff.mp all).1

theorem Everywhere.child {node child : Node} (all : node.Everywhere property)
    (member : child ∈ node.children) : child.Everywhere property :=
  (everywhere_iff.mp all).2 child member

theorem Everywhere.imp {node : Node} (all : node.Everywhere property)
    (implies : ∀ below, property below → other below) : node.Everywhere other :=
  fun below member => implies below (all below member)

theorem everywhere_bare {name : String} {depth : Nat} (holds : property (bare name depth)) :
    (bare name depth).Everywhere property :=
  everywhere_iff.mpr ⟨holds, fun _ member => absurd member List.not_mem_nil⟩

theorem Everywhere.put {node : Node} (all : node.Everywhere property) {key : String} {value : Value}
    (here : property (node.put key value)) : (node.put key value).Everywhere property :=
  everywhere_iff.mpr ⟨here, fun _ member => all.child member⟩

theorem mem_children_push {node child other : Node} :
    other ∈ (node.push child).children ↔ other ∈ node.children ∨ other = child := by
  simp [push]

theorem forall_children_push {node child : Node} (all : ∀ old ∈ node.children, property old)
    (new : property child) : ∀ other ∈ (node.push child).children, property other := by
  intro other member
  rcases mem_children_push.mp member with old | rfl
  · exact all other old
  · exact new

theorem Everywhere.push {node child : Node} (all : node.Everywhere property)
    (below : child.Everywhere property) (here : property (node.push child)) :
    (node.push child).Everywhere property :=
  everywhere_iff.mpr ⟨here, forall_children_push (everywhere_iff.mp all).2 below⟩

theorem self_mem_preorder (node : Node) : node ∈ node.preorder := by
  rw [preorder_eq_cons]
  exact List.mem_cons_self ..

theorem mem_preorder_of_below {node below : Node} (inside : below ∈ preorderAll node.children) :
    below ∈ node.preorder := by
  rw [preorder_eq_cons]
  exact List.mem_cons_of_mem _ inside

theorem mem_preorder_of_child {node child below : Node} (member : child ∈ node.children)
    (inside : below ∈ child.preorder) : below ∈ node.preorder := by
  apply mem_preorder_of_below
  rw [preorderAll_eq_flatMap]
  exact List.mem_flatMap.mpr ⟨child, member, inside⟩

/-- The nodes of a tree but its first one are the children of its nodes. -/
theorem mem_preorderAll_children_iff {node below : Node} :
    below ∈ preorderAll node.children ↔ ∃ parent ∈ node.preorder, below ∈ parent.children := by
  rw [preorderAll_eq_flatMap, List.mem_flatMap]
  constructor
  · rintro ⟨child, member, inside⟩
    induction node using induction generalizing child with
    | step name depth attributes children ih =>
      rw [preorder_eq_cons, preorderAll_eq_flatMap] at inside
      rcases List.mem_cons.mp inside with rfl | later
      · exact ⟨_, self_mem_preorder _, member⟩
      · obtain ⟨grandchild, memberChild, inGrandchild⟩ := List.mem_flatMap.mp later
        obtain ⟨parent, inParent, isChild⟩ := ih child member grandchild memberChild inGrandchild
        exact ⟨parent, mem_preorder_of_child member inParent, isChild⟩
  · rintro ⟨parent, inside, member⟩
    induction node using induction with
    | step name depth attributes children ih =>
      rw [preorder_eq_cons, preorderAll_eq_flatMap] at inside
      rcases List.mem_cons.mp inside with rfl | later
      · exact ⟨below, member, self_mem_preorder below⟩
      · obtain ⟨child, inChildren, inChild⟩ := List.mem_flatMap.mp later
        obtain ⟨grandchild, memberChild, inGrandchild⟩ := ih child inChildren inChild
        exact ⟨child, inChildren, mem_preorder_of_child memberChild inGrandchild⟩

theorem forall_mem_preorderAll_children_iff {node : Node} :
    (∀ below ∈ preorderAll node.children, property below) ↔
      node.Everywhere fun parent => ∀ child ∈ parent.children, property child := by
  unfold Everywhere
  simp only [mem_preorderAll_children_iff, forall_exists_index, and_imp]
  exact forall_comm.trans (forall_congr' fun _ => forall_comm)

end Everywhere

section Labels

mutual

/-- A tree with every name and every value replaced. Keys and depths stay. -/
def relabel (name : String → String) (value : Value → Value) : Node → Node
  | ⟨own, depth, attributes, children⟩ =>
    ⟨name own, depth, attributes.map fun entry => (entry.1, value entry.2),
      relabelAll name value children⟩

/-- Trees with every name and every value replaced. -/
def relabelAll (name : String → String) (value : Value → Value) : List Node → List Node
  | [] => []
  | node :: rest => node.relabel name value :: relabelAll name value rest

end

variable {name newName : String → String} {value newValue : Value → Value}

theorem relabelAll_eq_map (nodes : List Node) :
    relabelAll name value nodes = nodes.map (relabel name value) := by
  induction nodes with
  | nil => rfl
  | cons node rest ih => rw [relabelAll, ih, List.map_cons]

theorem relabel_eq (node : Node) : node.relabel name value =
    ⟨name node.name, node.depth, node.attributes.map fun entry => (entry.1, value entry.2),
      node.children.map (relabel name value)⟩ := by
  obtain ⟨own, depth, attributes, children⟩ := node
  rw [relabel, relabelAll_eq_map]

/-- Two relabelings of a tree agree exactly when they agree on every label in it. -/
theorem relabel_eq_relabel_iff (node : Node) :
    node.relabel name value = node.relabel newName newValue ↔
      node.Everywhere fun below => name below.name = newName below.name ∧
        ∀ entry ∈ below.attributes, value entry.2 = newValue entry.2 := by
  induction node using induction with
  | step own depth attributes children ih =>
    rw [relabel_eq, relabel_eq, everywhere_iff]
    simp only [mk.injEq, true_and, List.map_inj_left, Prod.mk.injEq]
    constructor
    · rintro ⟨names, values, below⟩
      exact ⟨⟨names, values⟩, fun child member => (ih child member).mp (below child member)⟩
    · rintro ⟨⟨names, values⟩, below⟩
      exact ⟨names, values, fun child member => (ih child member).mpr (below child member)⟩

theorem relabel_id (node : Node) : node.relabel id id = node := by
  induction node using induction with
  | step own depth attributes children ih =>
    have same : children.map (relabel id id) = children := by
      conv_rhs => rw [← List.map_id children]
      exact List.map_congr_left ih
    simp [relabel_eq, same]

theorem preorder_relabel (node : Node) :
    (node.relabel name value).preorder = node.preorder.map (relabel name value) := by
  induction node using induction with
  | step own depth attributes children ih =>
    rw [preorder_eq_cons, preorder_eq_cons, preorderAll_eq_flatMap, preorderAll_eq_flatMap,
      List.map_cons, List.map_flatMap, relabel_eq, List.flatMap_map]
    exact congrArg _ (List.flatMap_congr ih)

theorem everywhere_relabel {property : Node → Prop} {node : Node} :
    (node.relabel name value).Everywhere property ↔
      node.Everywhere fun below => property (below.relabel name value) := by
  unfold Everywhere
  rw [preorder_relabel]
  simp only [List.mem_map, forall_exists_index, and_imp, forall_apply_eq_imp_iff₂]

theorem at?_relabel (node : Node) (path : List Nat) :
    (node.relabel name value).at? path = (node.at? path).map (relabel name value) := by
  induction path generalizing node with
  | nil => rfl
  | cons index path ih =>
    rw [at?, at?, relabel_eq, List.getElem?_map]
    cases node.children[index]? with
    | none => rfl
    | some child => exact ih child

end Labels

section Update

/-- A change of a node that leaves its name and its depth alone. -/
structure KeepsPlace (change : Node → Node) : Prop where
  name : ∀ node, (change node).name = node.name
  depth : ∀ node, (change node).depth = node.depth

theorem KeepsPlace.update {change : Node → Node} (keeps : KeepsPlace change) (path : List Nat) :
    KeepsPlace (·.update change path) := by
  cases path with
  | nil => exact keeps
  | cons index path => exact ⟨fun _ => rfl, fun _ => rfl⟩

theorem keepsPlace_addChild (name : String) : KeepsPlace (·.addChild name) :=
  ⟨fun _ => rfl, fun _ => rfl⟩

theorem keepsPlace_put (key : String) (value : Value) : KeepsPlace (·.put key value) :=
  ⟨fun _ => rfl, fun _ => rfl⟩

theorem mem_modify {nodes : List Node} {index : Nat} {change : Node → Node} {node : Node}
    (member : node ∈ nodes.modify index change) : node ∈ nodes ∨ ∃ old ∈ nodes, node = change old := by
  obtain ⟨position, found⟩ := List.mem_iff_getElem?.mp member
  rw [List.getElem?_modify] at found
  obtain ⟨old, here, rfl⟩ := Option.map_eq_some_iff.mp found
  have present := List.mem_of_getElem? here
  by_cases same : index = position
  · exact .inr ⟨old, present, by rw [if_pos same]⟩
  · exact .inl (by rwa [if_neg same])

end Update

section Paths

variable {root below : Node}

theorem at?_append (node : Node) (path rest : List Nat) :
    node.at? (path ++ rest) = (node.at? path).bind (·.at? rest) := by
  induction path generalizing node with
  | nil => rfl
  | cons index path ih =>
    rw [List.cons_append, at?, at?, Option.bind_assoc]
    exact congrArg _ (funext fun child => ih child)

theorem at?_concat_eq_some_iff {path : List Nat} {position : Nat} :
    root.at? (path ++ [position]) = some below ↔
      ∃ parent, root.at? path = some parent ∧ parent.children[position]? = some below := by
  rw [at?_append, Option.bind_eq_some_iff]
  simp [at?]

theorem mem_preorder_of_at? {path : List Nat} (found : root.at? path = some below) :
    below ∈ root.preorder := by
  induction path generalizing root with
  | nil =>
    obtain rfl := Option.some.inj found
    exact self_mem_preorder _
  | cons index path ih =>
    obtain ⟨child, here, inside⟩ := Option.bind_eq_some_iff.mp found
    exact mem_preorder_of_child (List.mem_of_getElem? here) (ih inside)

/-- A node that is passed on the way to a change has the change made below it. -/
theorem at?_update_append {path : List Nat} (here : root.at? path = some below)
    (change : Node → Node) (rest : List Nat) :
    (root.update change (path ++ rest)).at? path = some (below.update change rest) := by
  induction path generalizing root with
  | nil =>
    obtain rfl := Option.some.inj here
    rfl
  | cons index path ih =>
    obtain ⟨child, atIndex, inside⟩ := Option.bind_eq_some_iff.mp here
    rw [List.cons_append, update, at?, List.getElem?_modify_eq, atIndex]
    exact ih inside

theorem at?_update_self {path : List Nat} (here : root.at? path = some below)
    (change : Node → Node) : (root.update change path).at? path = some (change below) := by
  have changed := at?_update_append here change []
  rwa [List.append_nil] at changed

/-- A change of a node that leaves everything below it in its place. -/
def KeepsBelow (change : Node → Node) : Prop :=
  ∀ (node : Node) (index : Nat) (child : Node), node.children[index]? = some child →
    (change node).children[index]? = some child

theorem keepsBelow_put (key : String) (value : Value) : KeepsBelow (·.put key value) :=
  fun _ _ _ here => here

theorem keepsBelow_push (child : Node → Node) : KeepsBelow fun node => node.push (child node) := by
  intro node index old here
  obtain ⟨inside, -⟩ := List.getElem?_eq_some_iff.mp here
  exact (List.getElem?_append_left inside).trans here

/-- A change at the end of a path goes past every node that is not on the path. -/
theorem at?_update_of_not_prefix {change : Node → Node} (keeps : KeepsBelow change)
    {place path : List Nat} (apart : ¬ place <+: path) (found : root.at? place = some below) :
    (root.update change path).at? place = some below := by
  induction path generalizing root place with
  | nil =>
    cases place with
    | nil => exact absurd List.prefix_rfl apart
    | cons index place =>
      obtain ⟨child, here, inside⟩ := Option.bind_eq_some_iff.mp found
      exact Option.bind_eq_some_iff.mpr ⟨child, keeps root index child here, inside⟩
  | cons next path ih =>
    cases place with
    | nil => exact absurd List.nil_prefix apart
    | cons index place =>
      obtain ⟨child, here, inside⟩ := Option.bind_eq_some_iff.mp found
      rw [update, at?]
      by_cases same : next = index
      · subst same
        rw [List.getElem?_modify_eq, here]
        exact ih (fun shorter => apart (List.cons_prefix_cons.mpr ⟨rfl, shorter⟩)) inside
      · rw [List.getElem?_modify_ne _ _ same, here]
        exact inside

end Paths

end Offload.Container.Node
