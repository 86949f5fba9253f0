import Offload.Proofs.Container.Labels
import Offload.Proofs.Container.Ranges

/-! # Finding payloads again

A payload is known by the range that was written down when it was attached. `Bundle.Located` says
that the descriptions at every node address the payloads attached there, in that order. Appending to
the appendix keeps every range where it is, and an edit adds descriptions at the end of its own path
and nowhere else (`descriptionsAt_update`), so a run keeps it. `payloads_parse_serialize` carries it
through the serialized bytes.
-/

namespace Offload.Container

namespace Edit

/-- The path of the node that an edit changes. -/
def path : Edit → List Nat
  | .addChild path _ | .put path _ _ | .attach path _ => path

/-- The payload that an edit attaches to a node. -/
def payloadAt? (place : List Nat) : Edit → Option (List UInt8)
  | .addChild _ _ | .put _ _ _ => none
  | .attach path payload => if place = path then some payload else none

/-- An edit that can be asked for: callers hold the root and the children they made, never the
description of a payload, and make no child with the name of one. -/
structure Possible (root : Node) (edit : Edit) : Prop where
  target : ∃ node, root.at? edit.path = some node ∧ node.name ≠ Node.attachmentName
  unreserved : ∀ path name, edit = .addChild path name → name ≠ Node.attachmentName

end Edit

namespace Node

/-- The attributes of the children that describe payloads. -/
def descriptions (node : Node) : List Attributes :=
  (node.children.filter (·.name == attachmentName)).map (·.attributes)

/-- The descriptions at the end of a path. -/
def descriptionsAt (root : Node) (path : List Nat) : List Attributes :=
  (root.at? path).elim [] descriptions

variable {root node child : Node}

@[simp] theorem descriptionsAt_nil (node : Node) : node.descriptionsAt [] = node.descriptions := rfl

theorem descriptionsAt_cons (node : Node) (index : Nat) (path : List Nat) :
    node.descriptionsAt (index :: path) =
      node.children[index]?.elim [] fun child => child.descriptionsAt path := by
  unfold descriptionsAt
  rw [at?]
  cases node.children[index]? with
  | none => rfl
  | some child => rfl

theorem descriptionsAt_of_children_eq_nil (none : child.children = []) (path : List Nat) :
    child.descriptionsAt path = [] := by
  cases path with
  | nil => rw [descriptionsAt_nil, descriptions, none]; rfl
  | cons index path => rw [descriptionsAt_cons, none]; rfl

/-- What a new child without children describes, the node it is appended to gains. -/
theorem descriptionsAt_push (none : child.children = []) (path : List Nat) :
    (node.push child).descriptionsAt path = node.descriptionsAt path ++
      if path = [] ∧ child.name = attachmentName then [child.attributes] else [] := by
  cases path with
  | nil =>
    by_cases describes : child.name = attachmentName <;>
      simp [descriptions, push, List.filter_append, describes]
  | cons index path =>
    rw [if_neg (by simp), List.append_nil, descriptionsAt_cons, descriptionsAt_cons, push]
    rcases Nat.lt_trichotomy index node.children.length with old | rfl | beyond
    · rw [List.getElem?_append_left old]
    · rw [List.getElem?_concat_length, List.getElem?_eq_none (Nat.le_refl _)]
      exact descriptionsAt_of_children_eq_nil none path
    · rw [List.getElem?_eq_none (by simp; omega), List.getElem?_eq_none (by omega)]

/-- Changing a child adds no description and drops none. -/
theorem descriptions_modify {children : List Node} {index : Nat} {change : Node → Node}
    (keeps : ∀ child, children[index]? = some child → (change child).name = child.name ∧
      (child.name = attachmentName → (change child).attributes = child.attributes))
    (name : String) (depth : Nat) (attributes : Attributes) :
    descriptions ⟨name, depth, attributes, children.modify index change⟩ =
      descriptions ⟨name, depth, attributes, children⟩ := by
  unfold descriptions
  induction children generalizing index with
  | nil => rw [List.modify_nil]
  | cons child rest ih =>
    cases index with
    | zero =>
      obtain ⟨sameName, sameAttributes⟩ := keeps child rfl
      by_cases describes : child.name = attachmentName
      · simp [sameName, describes, sameAttributes describes]
      · simp [sameName, describes]
    | succ index =>
      have later := ih keeps
      by_cases describes : child.name = attachmentName <;> simpa [describes] using later

/-- A change adds descriptions at the end of its path and nowhere else. -/
theorem descriptionsAt_update {change : Node → Node} (keeps : KeepsPlace change) {target : Node}
    {path : List Nat} (found : root.at? path = some target)
    (other : target.name ≠ attachmentName) {added : List Attributes}
    (gains : ∀ place, (change target).descriptionsAt place =
      target.descriptionsAt place ++ if place = [] then added else []) (place : List Nat) :
    (root.update change path).descriptionsAt place =
      root.descriptionsAt place ++ if place = path then added else [] := by
  induction path generalizing root place with
  | nil =>
    obtain rfl := Option.some.inj found
    exact gains place
  | cons index path ih =>
    obtain ⟨child, here, below⟩ := Option.bind_eq_some_iff.mp found
    cases place with
    | nil =>
      rw [if_neg (by simp), List.append_nil]
      -- Either the child on the path is the target, which is no description, or it only has a
      -- child changed, which its description does not show.
      refine descriptions_modify (fun same present => ?_) _ _ _
      obtain rfl : same = child := Option.some.inj (present.symm.trans here)
      refine ⟨(keeps.update path).name same, ?_⟩
      intro describes
      cases path with
      | nil =>
        obtain rfl := Option.some.inj below
        contradiction
      | cons next path => rfl
    | cons position place =>
      rw [descriptionsAt_cons, descriptionsAt_cons, update]
      by_cases same : index = position
      · subst same
        rw [List.getElem?_modify_eq, here]
        simpa using ih below place
      · rw [List.getElem?_modify_ne _ _ same, if_neg (by simp [Ne.symm same]), List.append_nil]

/-- A change that adds no description where it is made adds none anywhere. -/
theorem descriptionsAt_update_of_same {change : Node → Node} (keeps : KeepsPlace change)
    {target : Node} {path : List Nat} (found : root.at? path = some target)
    (other : target.name ≠ attachmentName)
    (same : ∀ place, (change target).descriptionsAt place = target.descriptionsAt place)
    (place : List Nat) :
    (root.update change path).descriptionsAt place = root.descriptionsAt place := by
  have gains := descriptionsAt_update keeps found other
    (fun place => by rw [same, ite_self, List.append_nil]) place
  rwa [ite_self, List.append_nil] at gains

end Node

namespace Bundle

/-- How bundles are built: from nothing, by edits that can be asked for and are not refused. -/
inductive Built : List Edit → Bundle → Prop where
  | empty : Built [] empty
  | edit {edits : List Edit} {bundle next : Bundle} {edit : Edit} (before : Built edits bundle)
    (possible : edit.Possible bundle.root) (done : bundle.apply edit = .ok next) :
    Built (edits ++ [edit]) next

theorem Built.applyAll {edits : List Edit} {bundle : Bundle} (built : Built edits bundle) :
    Bundle.empty.applyAll edits = .ok bundle := by
  induction built with
  | empty => rfl
  | edit before possible done ih =>
    unfold Bundle.applyAll at ih ⊢
    rw [List.foldlM_append, ih]
    change List.foldlM apply _ [_] = _
    rw [List.foldlM_cons, done]
    rfl

/-- The payloads that edits attach to the node at the end of a path, in order. -/
def attachedTo (edits : List Edit) (path : List Nat) : List (List UInt8) :=
  edits.filterMap (Edit.payloadAt? path)

/-- Attributes that give the range of a payload in the appendix. -/
def Describes (appendix : List UInt8) (attributes : Attributes) (payload : List UInt8) : Prop :=
  ∃ front back, appendix = front ++ payload ++ back ∧
    attributes = (attachment 0 front.length payload.length).attributes

/-- The descriptions at every node address the payloads that were attached there, in order. -/
def Located (edits : List Edit) (bundle : Bundle) : Prop :=
  ∀ path, List.Forall₂ (Describes bundle.appendix) (bundle.root.descriptionsAt path)
    (attachedTo edits path)

theorem Describes.append {appendix payload : List UInt8} {attributes : Attributes}
    (describes : Describes appendix attributes payload) (more : List UInt8) :
    Describes (appendix ++ more) attributes payload := by
  obtain ⟨front, back, rfl, range⟩ := describes
  exact ⟨front, back ++ more, by simp, range⟩

theorem attachedTo_concat (edits : List Edit) (edit : Edit) (path : List Nat) :
    attachedTo (edits ++ [edit]) path =
      attachedTo edits path ++ (edit.payloadAt? path).toList := by
  unfold attachedTo
  rw [List.filterMap_append]
  cases last : edit.payloadAt? path with
  | none => simp [last]
  | some payload => simp [last]

theorem located_empty : Located [] empty := by
  intro path
  have bare : empty.root.descriptionsAt path = [] := Node.descriptionsAt_of_children_eq_nil rfl path
  rw [bare]
  exact .nil

/-- An edit keeps the payloads located: what it adds at its path is described there. -/
theorem Located.apply {edits : List Edit} {bundle next : Bundle} {edit : Edit}
    (located : Located edits bundle) (possible : edit.Possible bundle.root)
    (done : bundle.apply edit = .ok next) : Located (edits ++ [edit]) next := by
  obtain ⟨⟨target, found, other⟩, unreserved⟩ := possible
  intro place
  rw [attachedTo_concat]
  cases edit with
  | addChild path name =>
    obtain rfl := Except.ok.inj done
    change bundle.root.at? path = some target at found
    have same := Node.descriptionsAt_update_of_same (Node.keepsPlace_addChild name) found other
      (fun place => by
        rw [Node.addChild, Node.descriptionsAt_push rfl,
          if_neg fun new => unreserved path name rfl new.2, List.append_nil]) place
    change List.Forall₂ _ ((bundle.root.update (·.addChild name) path).descriptionsAt place) _
    rw [same, Edit.payloadAt?, Option.toList_none, List.append_nil]
    exact located place
  | put path key value =>
    obtain ⟨-, rfl⟩ := apply_put_eq_ok_iff.mp done
    change bundle.root.at? path = some target at found
    have same := Node.descriptionsAt_update_of_same (Node.keepsPlace_put key value) found other
      (fun place => by cases place <;> rfl) place
    rw [same, Edit.payloadAt?, Option.toList_none, List.append_nil]
    exact located place
  | attach path payload =>
    obtain rfl := Except.ok.inj done
    change bundle.root.at? path = some target at found
    have gained := Node.descriptionsAt_update
      (keepsPlace_attach bundle.appendix.length payload.length) found other
      (fun place => by
        rw [Node.descriptionsAt_push rfl]
        exact congrArg _ (if_congr (and_iff_left rfl) rfl rfl)) place
    change List.Forall₂ _ ((bundle.root.update _ path).descriptionsAt place) _
    rw [gained, Edit.payloadAt?]
    refine List.rel_append ((located place).imp fun _ _ describes => describes.append payload) ?_
    split
    · exact .cons ⟨bundle.appendix, [], (List.append_nil _).symm, rfl⟩ .nil
    · exact .nil

/-- Whatever run built a bundle, its payloads are located. -/
theorem Built.located {edits : List Edit} {bundle : Bundle} (built : Built edits bundle) :
    Located edits bundle := by
  induction built with
  | empty => exact located_empty
  | edit before possible done ih => exact ih.apply possible done

/-- A described payload is read from its range, if the appendix is one that fits in memory. -/
theorem payload_eq_ok {bundle : Bundle} {node : Node} {payload : List UInt8}
    (name : node.name = Node.attachmentName)
    (describes : Describes bundle.appendix node.attributes payload)
    (small : bundle.appendix.length < Nat.pow 2 63) : bundle.payload node = .ok payload := by
  obtain ⟨front, back, split, range⟩ := describes
  have total : bundle.appendix.length = front.length + payload.length + back.length := by
    rw [split, List.length_append, List.length_append]
  have held (key : String) (number : Nat)
      (written : node.attribute? key = some (.int (Int64.ofNat number)))
      (fits : number < Nat.pow 2 63) : node.Holds key number :=
    ⟨_, written, Int64.toInt_ofNat_of_lt fits⟩
  have spans : node.Spans front.length payload.length :=
    ⟨name, held _ _ (by unfold Node.attribute?; rw [range]; rfl) (by omega),
      held _ _ (by unfold Node.attribute?; rw [range]; rfl) (by omega)⟩
  rw [spans.payload_eq, if_pos (by omega), split, List.append_assoc, List.drop_left, List.take_left]

/-- Ranges are numbers, so they are read back as they are. -/
theorem Describes.reread {appendix payload : List UInt8} {attributes : Attributes}
    (describes : Describes appendix attributes payload) :
    Describes appendix (attributes.map fun entry => (entry.1, entry.2.reread)) payload := by
  obtain ⟨front, back, split, rfl⟩ := describes
  exact ⟨front, back, split, rfl⟩

/-- Every payload is found again: after a run that leaves clean labels, the bundle is read back, and
the payloads of each node are those that were attached to it, whatever their bytes. No sequence of
bytes in memory reaches the length from which offsets would be negative. -/
theorem payloads_parse_serialize {edits : List Edit} {bundle : Bundle} (built : Built edits bundle)
    (clean : bundle.root.Clean) (small : bundle.appendix.length < Nat.pow 2 63) :
    parse bundle.serialize = .ok ⟨bundle.root.reread, bundle.appendix⟩ ∧
      ∀ path node, bundle.root.reread.at? path = some node →
        payloads ⟨bundle.root.reread, bundle.appendix⟩ node = .ok (attachedTo edits path) := by
  refine ⟨parse_serialize (sound_of_applyAll built.applyAll) clean, ?_⟩
  intro path node here
  rw [Node.reread, Node.at?_relabel] at here
  obtain ⟨original, found, rfl⟩ := Option.map_eq_some_iff.mp here
  have located := built.located path
  unfold Node.descriptionsAt at located
  rw [found, Option.elim_some, Node.descriptions, List.forall₂_map_left_iff] at located
  have named : ∀ child ∈ original.children.filter (·.name == Node.attachmentName),
      child.name = Node.attachmentName :=
    fun child member => beq_iff_eq.mp (List.mem_filter.mp member).2
  have sameName : (fun child : Node => child.name == Node.attachmentName) ∘
      Node.relabel id Value.reread = fun child => child.name == Node.attachmentName := by
    funext child
    rw [Function.comp_apply, Node.relabel_eq]
    rfl
  unfold payloads
  rw [Except.mapM_eq_ok_iff, Node.relabel_eq, List.filter_map, List.forall₂_map_left_iff, sameName]
  refine ((List.forall₂_and_left _ _).mpr ⟨named, located⟩).imp ?_
  rintro child payload ⟨name, describes⟩
  rw [Node.relabel_eq]
  exact payload_eq_ok name describes.reread small

/-- A payload that holds the marker, an empty one, and one that is no text, at two nodes. -/
theorem payloads_parse_serialize_marker : ∃ bundle node, Built
    [.attach [] (Text.Utf8.encode marker), .addChild [] "image", .attach [1] [], .attach [1] [0xff]]
      bundle ∧ bundle.root.reread.at? [1] = some node ∧
    payloads ⟨bundle.root.reread, bundle.appendix⟩ node = .ok [[], [0xff]] := by
  have marked : Built ([] ++ [.attach [] (Text.Utf8.encode marker)]) _ :=
    .edit .empty ⟨⟨_, rfl, by decide⟩, by simp⟩ rfl
  have opened : Built (_ ++ [.addChild [] "image"]) _ :=
    .edit marked ⟨⟨_, rfl, by decide⟩, by rintro _ _ ⟨⟩; decide⟩ rfl
  have emptied : Built (_ ++ [.attach [1] []]) _ := .edit opened ⟨⟨_, rfl, by decide⟩, by simp⟩ rfl
  have filled : Built (_ ++ [.attach [1] [0xff]]) _ :=
    .edit emptied ⟨⟨_, rfl, by decide⟩, by simp⟩ rfl
  exact ⟨_, _, filled, rfl, (payloads_parse_serialize filled (by decide) (by decide)).2 [1] _ rfl⟩

end Bundle

end Offload.Container
