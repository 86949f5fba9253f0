import Offload.Proofs.Container.Payloads

/-! # Where payloads lie

Every payload of a bundle keeps the range it was given, and the ranges of all payloads tile the
appendix. `Bundle.Grown` is a run together with the nodes that its attachments made. A node that was
made so is not held by anyone afterwards, so later edits go past it (`at?_update_of_not_prefix`), and
appending to the appendix moves nothing. `Grown.tiles` carries both over a whole run.
-/

namespace Offload.Container

/-- An attachment that was made: the node that the payload went to, the position among its children
of the node that describes the payload, and the payload. -/
structure Attached where
  target : List Nat
  position : Nat
  payload : List UInt8
deriving DecidableEq, Repr

/-- The path of the node that describes the payload. -/
def Attached.place (attached : Attached) : List Nat :=
  attached.target ++ [attached.position]

/-- The node and the payload of an edit that attaches. -/
def Edit.attachment? : Edit → Option (List Nat × List UInt8)
  | .addChild _ _ | .put _ _ _ => none
  | .attach path payload => some (path, payload)

namespace Bundle

/-- The attachments that were made once an edit of this node is done. -/
def logAfter (log : List Attached) (node : Node) : Edit → List Attached
  | .addChild _ _ | .put _ _ _ => log
  | .attach path payload => log ++ [⟨path, node.children.length, payload⟩]

/-- How bundles grow, and the attachments made on the way. Callers hold the root and the children
they made, whatever their names, and never a node that describes a payload. An edit that is refused
changes nothing. -/
inductive Grown : List Edit → List Attached → Bundle → Prop where
  | empty : Grown [] [] empty
  | edit {edits : List Edit} {log : List Attached} {bundle next : Bundle} {edit : Edit} {node : Node}
    (before : Grown edits log bundle) (here : bundle.root.at? edit.path = some node)
    (held : ∀ attached ∈ log, edit.path ≠ attached.place) (done : bundle.apply edit = .ok next) :
    Grown (edits ++ [edit]) (logAfter log node edit) next
  | refused {edits : List Edit} {log : List Attached} {bundle : Bundle} {edit : Edit}
    {fault : AttributeFault} (before : Grown edits log bundle)
    (failed : bundle.apply edit = .error fault) : Grown (edits ++ [edit]) log bundle

/-- Ranges, each an offset and a size, that follow each other without gaps between two offsets. -/
inductive Tiles : Nat → List (Nat × Nat) → Nat → Prop where
  | nil (start : Nat) : Tiles start [] start
  | cons {start size stop : Nat} {rest : List (Nat × Nat)} (later : Tiles (start + size) rest stop) :
    Tiles start ((start, size) :: rest) stop

theorem Tiles.concat {start stop : Nat} {ranges : List (Nat × Nat)}
    (tiles : Tiles start ranges stop) (size : Nat) :
    Tiles start (ranges ++ [(stop, size)]) (stop + size) := by
  induction tiles with
  | nil start => exact .cons (.nil _)
  | cons _ ih => exact .cons ih

/-- A payload lies in this range of the appendix, and the node at its place describes the range. -/
structure LiesIn (bundle : Bundle) (attached : Attached) (range : Nat × Nat) : Prop where
  split : ∃ front back, bundle.appendix = front ++ attached.payload ++ back ∧
    range = (front.length, attached.payload.length)
  described : ∃ depth, bundle.root.at? attached.place = some (attachment depth range.1 range.2)

section Steps

variable {bundle : Bundle} {attached : Attached} {range : Nat × Nat}

/-- No node below a description is there, so a held node is not on the way to one. -/
theorem LiesIn.not_prefix (lies : LiesIn bundle attached range) {path : List Nat} {node : Node}
    (here : bundle.root.at? path = some node) (held : path ≠ attached.place) :
    ¬ attached.place <+: path := by
  rintro ⟨rest, rfl⟩
  obtain ⟨depth, described⟩ := lies.described
  rw [Node.at?_append, described, Option.bind_some] at here
  cases rest with
  | nil => exact held (List.append_nil _)
  | cons index rest => contradiction

/-- A change at a held node leaves a payload and its description where they are, whatever is appended
to the appendix. -/
theorem LiesIn.update (lies : LiesIn bundle attached range) {change : Node → Node}
    (keeps : Node.KeepsBelow change) {path : List Nat} {node : Node}
    (here : bundle.root.at? path = some node) (held : path ≠ attached.place) (more : List UInt8) :
    LiesIn ⟨bundle.root.update change path, bundle.appendix ++ more⟩ attached range := by
  obtain ⟨front, back, split, isRange⟩ := lies.split
  obtain ⟨depth, described⟩ := lies.described
  refine ⟨⟨front, back ++ more, ?_, isRange⟩, depth, ?_⟩
  · rw [split, List.append_assoc]
  · exact Node.at?_update_of_not_prefix keeps (lies.not_prefix here held) described

/-- A payload that is attached lies at the end of the appendix. -/
theorem liesIn_attach {path : List Nat} {node : Node} (here : bundle.root.at? path = some node)
    (payload : List UInt8) : LiesIn (bundle.attach path payload)
      ⟨path, node.children.length, payload⟩ (bundle.appendix.length, payload.length) := by
  refine ⟨⟨bundle.appendix, [], (List.append_nil _).symm, rfl⟩, node.depth + 1, ?_⟩
  refine Node.at?_concat_eq_some_iff.mpr ⟨_, Node.at?_update_self here _, ?_⟩
  exact List.getElem?_concat_length

end Steps

section Runs

variable {edits : List Edit} {log : List Attached} {bundle : Bundle}

theorem Grown.sound (grown : Grown edits log bundle) : bundle.Sound := by
  induction grown with
  | empty => exact sound_empty
  | edit _ _ _ done ih => exact ih.apply done
  | refused _ _ ih => exact ih

/-- The log names the attachments of a run in the order of the edits. -/
theorem Grown.log_eq (grown : Grown edits log bundle) :
    log.map (fun attached => (attached.target, attached.payload)) =
      edits.filterMap Edit.attachment? := by
  induction grown with
  | empty => rfl
  | @edit _ _ _ _ edit _ _ _ _ done ih =>
    rw [List.filterMap_append, ← ih]
    cases edit with
    | addChild path name => exact (List.append_nil _).symm
    | put path key value => exact (List.append_nil _).symm
    | attach path payload => exact List.map_append
  | @refused _ _ _ edit _ _ failed ih =>
    rw [List.filterMap_append, ← ih]
    cases edit with
    | addChild path name => contradiction
    | put path key value => exact (List.append_nil _).symm
    | attach path payload => contradiction

/-- The attachments of a run lie in ranges that tile the appendix. -/
theorem Grown.tiles (grown : Grown edits log bundle) : ∃ ranges,
    Tiles 0 ranges bundle.appendix.length ∧ List.Forall₂ (LiesIn bundle) log ranges := by
  induction grown with
  | empty => exact ⟨[], .nil 0, .nil⟩
  | refused _ _ ih => exact ih
  | @edit _ log bundle _ edit node _ here held done ih =>
    obtain ⟨ranges, tiles, lie⟩ := ih
    have untouched := (List.forall₂_and_left _ _).mpr ⟨held, lie⟩
    cases edit with
    | addChild path name =>
      obtain rfl := Except.ok.inj done
      refine ⟨ranges, tiles, untouched.imp ?_⟩
      rintro attached range ⟨apart, lies⟩
      have later := lies.update (Node.keepsBelow_push fun node => Node.bare name (node.depth + 1))
        here apart []
      rwa [List.append_nil] at later
    | put path key value =>
      obtain ⟨-, rfl⟩ := apply_put_eq_ok_iff.mp done
      refine ⟨ranges, tiles, untouched.imp ?_⟩
      rintro attached range ⟨apart, lies⟩
      have later := lies.update (Node.keepsBelow_put key value) here apart []
      rwa [List.append_nil] at later
    | attach path payload =>
      obtain rfl := Except.ok.inj done
      refine ⟨ranges ++ [(bundle.appendix.length, payload.length)], ?_, ?_⟩
      · rw [attach, List.length_append]
        exact tiles.concat payload.length
      · refine List.rel_append (untouched.imp ?_) (.cons (liesIn_attach here payload) .nil)
        rintro attached range ⟨apart, lies⟩
        exact lies.update (Node.keepsBelow_push _) here apart payload

/-- Every attachment of a run made a node, which is still there. -/
theorem Grown.exists_at? (grown : Grown edits log bundle) :
    ∀ attached ∈ log, ∃ node, bundle.root.at? attached.place = some node := by
  obtain ⟨ranges, -, lie⟩ := grown.tiles
  have both : List.Forall₂ (fun attached range =>
      (∃ node, bundle.root.at? attached.place = some node) ∧ LiesIn bundle attached range)
      log ranges := by
    refine lie.imp ?_
    intro attached range lies
    obtain ⟨depth, described⟩ := lies.described
    exact ⟨⟨_, described⟩, lies⟩
  exact ((List.forall₂_and_left _ _).mp both).1

/-- No two attachments of a run made the same node. -/
theorem Grown.nodup_place (grown : Grown edits log bundle) : (log.map Attached.place).Nodup := by
  induction grown with
  | empty => exact List.nodup_nil
  | refused _ _ ih => exact ih
  | @edit _ log bundle _ edit node before here _ _ ih =>
    cases edit with
    | addChild path name => exact ih
    | put path key value => exact ih
    | attach path payload =>
      rw [logAfter, List.map_append, List.map_singleton]
      refine List.nodup_append.mpr ⟨ih, by simp, ?_⟩
      intro place old other new same
      obtain rfl := same.trans (List.mem_singleton.mp new)
      obtain ⟨attached, inLog, same⟩ := List.mem_map.mp old
      obtain ⟨made, there⟩ := before.exists_at? attached inLog
      rw [same] at there
      -- The new child comes behind all children that the node has.
      obtain ⟨parent, isParent, position⟩ := Node.at?_concat_eq_some_iff.mp there
      obtain rfl := Option.some.inj (isParent.symm.trans here)
      rw [List.getElem?_eq_none (Nat.le_refl _)] at position
      contradiction

/-- The attachments of a run, in its order, have ranges that tile the appendix from its beginning to
its end; each payload still stands in its range, and the range is told by a node of its own, one level
below the node that the payload went to. No sequence of bytes in memory reaches the length from which
offsets would be negative. -/
theorem Grown.ranges_tile_appendix (grown : Grown edits log bundle)
    (small : bundle.appendix.length < Nat.pow 2 63) :
    log.map (fun attached => (attached.target, attached.payload)) =
        edits.filterMap Edit.attachment? ∧
      (log.map Attached.place).Nodup ∧
      ∃ ranges, Tiles 0 ranges bundle.appendix.length ∧
        List.Forall₂ (fun attached (start, size) =>
          size = attached.payload.length ∧
          (bundle.appendix.drop start).take size = attached.payload ∧
          ∃ parent node, bundle.root.at? attached.target = some parent ∧
            parent.children[attached.position]? = some node ∧
            node.name = Node.attachmentName ∧ node.depth = parent.depth + 1 ∧
            (node.int? "start").map Int64.toInt = some (start : Int) ∧
            (node.int? "size").map Int64.toInt = some (size : Int)) log ranges := by
  obtain ⟨ranges, tiles, lie⟩ := grown.tiles
  refine ⟨grown.log_eq, grown.nodup_place, ranges, tiles, lie.imp ?_⟩
  rintro attached ⟨start, size⟩ ⟨⟨front, back, split, isRange⟩, depth, described⟩
  obtain ⟨rfl, rfl⟩ := Prod.mk.inj isRange
  have total : bundle.appendix.length = front.length + attached.payload.length + back.length := by
    rw [split, List.length_append, List.length_append]
  have starts : front.length < Nat.pow 2 63 := by omega
  have ends : attached.payload.length < Nat.pow 2 63 := by omega
  obtain ⟨parent, isParent, isChild⟩ := Node.at?_concat_eq_some_iff.mp described
  have deeper := (grown.sound.nodes parent (Node.mem_preorder_of_at? isParent)).deeper _
    (List.mem_of_getElem? isChild)
  refine ⟨rfl, ?_, parent, _, isParent, isChild, rfl, deeper, ?_, ?_⟩
  · rw [split, List.append_assoc, List.drop_left, List.take_left]
  · exact congrArg some (Int64.toInt_ofNat_of_lt starts)
  · exact congrArg some (Int64.toInt_ofNat_of_lt ends)

/-- Payloads at a node, at the root and below a child with the name of a description, the second one
empty, and an attribute that is refused. -/
theorem ranges_tile_appendix_nested : ∃ log bundle, Grown
    [.addChild [] "image", .attach [0] [1, 2], .put [0] "kind" (.text "ptx"), .attach [] [],
      .addChild [0] "__binary", .attach [0, 1] [7], .put [0] "" (.int 0)] log bundle ∧
    log = [⟨[0], 0, [1, 2]⟩, ⟨[], 1, []⟩, ⟨[0, 1], 0, [7]⟩] ∧
    bundle.appendix = [1, 2, 7] ∧ bundle.appendix.length < Nat.pow 2 63 ∧
    ∃ ranges, Tiles 0 ranges 3 ∧ List.Forall₂ (fun attached (start, size) =>
      (bundle.appendix.drop start).take size = attached.payload) log ranges := by
  have opened : Grown ([] ++ [.addChild [] "image"]) _ _ := .edit .empty rfl (by decide) rfl
  have first : Grown (_ ++ [.attach [0] [1, 2]]) _ _ := .edit opened rfl (by decide) rfl
  have written : Grown (_ ++ [.put [0] "kind" (.text "ptx")]) _ _ :=
    .edit first rfl (by decide) rfl
  have second : Grown (_ ++ [.attach [] []]) _ _ := .edit written rfl (by decide) rfl
  have named : Grown (_ ++ [.addChild [0] "__binary"]) _ _ := .edit second rfl (by decide) rfl
  have third : Grown (_ ++ [.attach [0, 1] [7]]) _ _ := .edit named rfl (by decide) rfl
  have all : Grown (_ ++ [.put [0] "" (.int 0)]) _ _ := .refused third rfl
  obtain ⟨-, -, ranges, tiles, lie⟩ := Grown.ranges_tile_appendix all (by decide)
  exact ⟨_, _, all, rfl, rfl, by decide, ranges, tiles, lie.imp fun _ _ lies => lies.2.1⟩

end Runs

end Bundle

end Offload.Container
