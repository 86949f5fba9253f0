import Mathlib.Data.List.Induction
import Offload.Proofs.Container.Grammar
import Offload.Proofs.Container.Ranges

/-! # Attributes in the order of their first writes

Writes to a node leave each key once: keys stand in the order of their first writes (`keys_putAll`),
and the value of a key is that of its last write (`mem_putAll_iff`). An edit changes the attributes
of the node at the end of its path and of no other node that is there (`Node.exists_at?_update`),
so after any run of edits the attributes of a node are its own writes, whatever else was made in
between and wherever (`Bundle.exists_applyAll`). `Bundle.attributes_of_edits` puts this together with
the accessors and with the text form, in which the lines of the attributes come first.
-/

namespace Offload.Container

namespace Attributes

/-- An entry that is written after all other writes of its key. -/
def LastWrite (writes : List (String × Value)) (entry : String × Value) : Prop :=
  ∃ front back, writes = front ++ entry :: back ∧ ∀ later ∈ back, later.1 ≠ entry.1

variable {attributes : Attributes} {writes : List (String × Value)} {entry last : String × Value}
  {key : String} {value : Value}

theorem LastWrite.mem (isLast : LastWrite writes entry) : entry ∈ writes := by
  obtain ⟨front, back, rfl, -⟩ := isLast
  simp

theorem lastWrite_concat_iff : LastWrite (writes ++ [last]) entry ↔
    entry = last ∨ entry.1 ≠ last.1 ∧ LastWrite writes entry := by
  constructor
  · rintro ⟨front, back, split, final⟩
    rcases List.eq_nil_or_concat' back with rfl | ⟨others, other, rfl⟩
    · obtain ⟨-, same⟩ := List.append_inj' split rfl
      exact .inl (List.singleton_inj.mp same).symm
    · rw [← List.cons_append, ← List.append_assoc] at split
      obtain ⟨rfl, same⟩ := List.append_inj' split rfl
      obtain rfl := List.singleton_inj.mp same
      refine .inr ⟨(final last (by simp)).symm, front, others, rfl, fun later member => ?_⟩
      exact final later (List.mem_append_left _ member)
  · rintro (rfl | ⟨differs, front, back, rfl, final⟩)
    · exact ⟨writes, [], rfl, by simp⟩
    · refine ⟨front, back ++ [last], by simp, fun later member => ?_⟩
      rcases List.mem_append.mp member with inBack | isLast
      · exact final later inBack
      · rw [List.mem_singleton.mp isLast]
        exact differs.symm

theorem putAll_concat (attributes : Attributes) (writes : List (String × Value))
    (last : String × Value) :
    attributes.putAll (writes ++ [last]) = (attributes.putAll writes).put last.1 last.2 :=
  List.foldl_append

/-- Keys stand in the order of their first writes. -/
theorem keys_putAll (writes : List (String × Value)) :
    (putAll [] writes).map (·.1) = (writes.map (·.1)).eraseDups := by
  induction writes using List.reverseRecOn with
  | nil => rfl
  | append_singleton front last ih =>
    rw [putAll_concat, keys_put, ih, List.map_append, List.eraseDups_append]
    by_cases known : last.1 ∈ front.map (·.1)
    · simp [List.removeAll, known]
    · simp [List.removeAll, known, List.eraseDups_cons]

theorem nodup_putAll (writes : List (String × Value)) : ((putAll [] writes).map (·.1)).Nodup := by
  induction writes using List.reverseRecOn with
  | nil => exact List.nodup_nil
  | append_singleton front last ih =>
    rw [putAll_concat]
    exact nodup_put ih last.1 last.2

/-- Each key comes once, so its value is the one that is found. -/
theorem lookup_eq_some_iff (distinct : (attributes.map (·.1)).Nodup) :
    attributes.lookup? key = some value ↔ (key, value) ∈ attributes := by
  unfold lookup?
  induction attributes with
  | nil => simp
  | cons entry rest ih =>
    obtain ⟨known, old⟩ := entry
    obtain ⟨fresh, later⟩ := List.nodup_cons.mp distinct
    by_cases here : known = key
    · subst here
      have absent : (known, value) ∉ rest := fun member => fresh (List.mem_map.mpr ⟨_, member, rfl⟩)
      simp [absent, eq_comm]
    · simpa [here, Ne.symm here] using ih later

theorem mem_put_iff (distinct : (attributes.map (·.1)).Nodup) :
    entry ∈ attributes.put key value ↔ entry = (key, value) ∨ entry.1 ≠ key ∧ entry ∈ attributes := by
  obtain ⟨other, content⟩ := entry
  rw [← lookup_eq_some_iff (nodup_put distinct key value), lookup_put,
    ← lookup_eq_some_iff distinct]
  by_cases same : other = key
  · simp [same, eq_comm]
  · simp [same]

/-- Of the writes of a key the last one is kept. -/
theorem mem_putAll_iff : entry ∈ putAll [] writes ↔ LastWrite writes entry := by
  induction writes using List.reverseRecOn with
  | nil => simp [putAll, LastWrite]
  | append_singleton front last ih =>
    rw [putAll_concat, mem_put_iff (nodup_putAll front), lastWrite_concat_iff, ih]

end Attributes

namespace Node

variable {root node : Node}

/-- A change at the end of one path leaves the attributes of every node at another one as they are. -/
theorem exists_at?_update {change : Node → Node} (keeps : KeepsBelow change) {place : List Nat}
    (here : root.at? place = some node) (path : List Nat) :
    ∃ after, (root.update change path).at? place = some after ∧
      after.attributes = if place = path then (change node).attributes else node.attributes := by
  by_cases passed : place <+: path
  · obtain ⟨rest, rfl⟩ := passed
    refine ⟨_, at?_update_append here change rest, ?_⟩
    cases rest with
    | nil => simp [update]
    | cons index rest => simp [update]
  · refine ⟨node, at?_update_of_not_prefix keeps passed here, ?_⟩
    rw [if_neg]
    rintro rfl
    exact passed List.prefix_rfl

/-- The blocks of a node's children, each between its brackets. -/
def blocks (node : Node) : List Char :=
  node.children.flatMap fun child =>
    openingLine node.depth child.name ++ '\n' :: child.text ++
      closingLine node.depth child.name ++ ['\n']

/-- The text of a node is the lines of its attributes, and then the blocks of its children. -/
theorem text_eq (node : Node) : node.text =
    (node.attributes.map (attributeLine node.depth)).flatMap (· ++ ['\n']) ++ node.blocks := by
  obtain ⟨name, depth, attributes, children⟩ := node
  rw [text, lines, List.flatMap_append, blocks]
  congr 1
  induction children with
  | nil => rfl
  | cons child rest ih =>
    rw [childLines, List.flatMap_cons, ← ih]
    simp [text]

end Node

namespace Edit

/-- An edit that is not refused: it writes an attribute that may be written, or none. -/
def Accepted : Edit → Prop
  | .addChild _ _ | .attach _ _ => True
  | .put _ key value => checkAttribute key value = .ok ()

/-- The attribute that an edit writes to a node. -/
def writeAt? (place : List Nat) : Edit → Option (String × Value)
  | .addChild _ _ | .attach _ _ => none
  | .put path key value => if place = path then some (key, value) else none

end Edit

namespace Bundle

variable {bundle : Bundle} {place : List Nat} {node : Node}

/-- The attributes that edits write to the node at the end of a path, in order. -/
def writtenTo (edits : List Edit) (place : List Nat) : List (String × Value) :=
  edits.filterMap (Edit.writeAt? place)

/-- One edit: a node that is there stays there, with what the edit writes to it. -/
theorem exists_apply {edit : Edit} (accepted : edit.Accepted)
    (here : bundle.root.at? place = some node) :
    ∃ next after, bundle.apply edit = .ok next ∧ next.root.at? place = some after ∧
      after.attributes = node.attributes.putAll (edit.writeAt? place).toList := by
  cases edit with
  | addChild path name =>
    obtain ⟨after, there, same⟩ := Node.exists_at?_update
      (Node.keepsBelow_push fun node => Node.bare name (node.depth + 1)) here path
    exact ⟨_, after, rfl, there, same.trans (ite_self _)⟩
  | attach path payload =>
    obtain ⟨after, there, same⟩ := Node.exists_at?_update (Node.keepsBelow_push fun node =>
      attachment (node.depth + 1) bundle.appendix.length payload.length) here path
    exact ⟨_, after, rfl, there, same.trans (ite_self _)⟩
  | put path key value =>
    obtain ⟨after, there, written⟩ :=
      Node.exists_at?_update (Node.keepsBelow_put key value) here path
    refine ⟨_, after, apply_put_eq_ok_iff.mpr ⟨accepted, rfl⟩, there, written.trans ?_⟩
    by_cases same : place = path
    · simp only [Edit.writeAt?, if_pos same]
      rfl
    · simp only [Edit.writeAt?, if_neg same]
      rfl

/-- A run of edits: a node that is there stays there, with everything that was written to it. -/
theorem exists_applyAll {edits : List Edit} (accepted : ∀ edit ∈ edits, edit.Accepted)
    (here : bundle.root.at? place = some node) :
    ∃ next after, bundle.applyAll edits = .ok next ∧ next.root.at? place = some after ∧
      after.attributes = node.attributes.putAll (writtenTo edits place) := by
  induction edits generalizing bundle node with
  | nil => exact ⟨bundle, node, rfl, here, rfl⟩
  | cons edit edits ih =>
    obtain ⟨first, others⟩ := List.forall_mem_cons.mp accepted
    obtain ⟨middle, between, step, there, written⟩ := exists_apply first here
    obtain ⟨next, after, run, present, all⟩ := ih others there
    refine ⟨next, after, ?_, present, ?_⟩
    · unfold applyAll
      rw [List.foldlM_cons, step]
      exact run
    · rw [all, written, writtenTo, writtenTo, List.filterMap_eq_flatMap_toList,
        List.filterMap_eq_flatMap_toList, List.flatMap_cons]
      exact (List.foldl_append).symm

/-- What accepted edits write may be written. -/
theorem checkAttribute_of_mem_writtenTo {edits : List Edit}
    (accepted : ∀ edit ∈ edits, edit.Accepted) {entry : String × Value}
    (member : entry ∈ writtenTo edits place) : checkAttribute entry.1 entry.2 = .ok () := by
  obtain ⟨edit, inEdits, writes⟩ := List.mem_filterMap.mp member
  have ok := accepted edit inEdits
  cases edit with
  | addChild path name => contradiction
  | attach path payload => contradiction
  | put path key value =>
    obtain ⟨-, same⟩ := Option.ite_none_right_eq_some.mp writes
    obtain rfl := Option.some.inj same
    exact ok

/-- Whatever accepted edits follow, at a node without attributes or elsewhere: each key that was
written to the node comes once, in the order of the first writes and with the value of its last one,
the accessors find exactly these entries, and the node's text has their lines, in this order, in front
of the blocks of its children. -/
theorem attributes_of_edits {edits : List Edit} (here : bundle.root.at? place = some node)
    (blank : node.attributes = []) (accepted : ∀ edit ∈ edits, edit.Accepted) :
    ∃ next after, bundle.applyAll edits = .ok next ∧ next.root.at? place = some after ∧
      after.attributes.map (·.1) = ((writtenTo edits place).map (·.1)).eraseDups ∧
      (after.attributes.map (·.1)).Nodup ∧
      (∀ entry, entry ∈ after.attributes ↔ Attributes.LastWrite (writtenTo edits place) entry) ∧
      (∀ key value, after.attribute? key = some value ↔ (key, value) ∈ after.attributes) ∧
      (∀ key n, after.int? key = some n ↔ (key, .int n) ∈ after.attributes) ∧
      Text.fields '\n' after.text =
        after.attributes.map (Node.attributeLine after.depth) ++ Text.fields '\n' after.blocks := by
  obtain ⟨next, after, run, there, written⟩ := exists_applyAll accepted here
  rw [blank] at written
  have distinct : (after.attributes.map (·.1)).Nodup := by
    rw [written]
    exact Attributes.nodup_putAll _
  have found (key : String) (value : Value) :
      after.attribute? key = some value ↔ (key, value) ∈ after.attributes :=
    Attributes.lookup_eq_some_iff distinct
  have kept (entry : String × Value) :
      entry ∈ after.attributes ↔ Attributes.LastWrite (writtenTo edits place) entry := by
    rw [written]
    exact Attributes.mem_putAll_iff
  refine ⟨next, after, run, there, ?_, distinct, kept, found, fun key n => ?_, ?_⟩
  · rw [written]
    exact Attributes.keys_putAll _
  · rw [Node.int?_eq_some_iff, found]
  · rw [Node.text_eq]
    apply Text.fields_flatMap_append
    intro line member
    obtain ⟨entry, inside, rfl⟩ := List.mem_map.mp member
    exact Node.lineFeed_notMem_attributeLine
      (checkAttribute_of_mem_writtenTo accepted ((kept entry).mp inside).mem) after.depth

/-- A key that is written a second time with a value of the other kind, between an attached payload, a
child and writes to that child. -/
def manifestEdits : List Edit :=
  [.put [0] "size" (.int 16), .attach [0] [0xff], .put [0] "format" (.text "ptx"),
    .addChild [0] "target", .put [0, 1] "arch" (.text "sm_70"), .put [0] "size" (.text "big")]

theorem attributes_of_edits_manifest : ∃ node next after,
    (empty.addChild [] "image").root.at? [0] = some node ∧ node.attributes = [] ∧
      (∀ edit ∈ manifestEdits, edit.Accepted) ∧
      (empty.addChild [] "image").applyAll manifestEdits = .ok next ∧
      next.root.at? [0] = some after ∧ after.attributes.map (·.1) = ["size", "format"] ∧
      after.attribute? "size" = some (.text "big") := by
  have here : (empty.addChild [] "image").root.at? [0] = some _ := rfl
  have accepted : ∀ edit ∈ manifestEdits, edit.Accepted := by
    simp only [manifestEdits, List.forall_mem_cons]
    exact ⟨rfl, trivial, rfl, trivial, rfl, rfl, by simp⟩
  obtain ⟨next, after, run, there, keys, -, kept, found, -⟩ :=
    attributes_of_edits here rfl accepted
  have isLast : Attributes.LastWrite (writtenTo manifestEdits [0]) ("size", .text "big") :=
    ⟨[("size", .int 16), ("format", .text "ptx")], [], rfl, by simp⟩
  exact ⟨_, next, after, here, rfl, accepted, run, there, keys.trans (by decide),
    (found _ _).mpr ((kept _).mpr isLast)⟩

end Bundle

end Offload.Container
