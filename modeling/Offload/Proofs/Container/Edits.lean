import Offload.Container.Bundle
import Offload.Proofs.Container.Tree
import Offload.Proofs.Except

/-! # What building a bundle keeps true

`Node.Sound` and `Bundle.Sound` are kept by every edit, wherever its path leads: keys of a node are
distinct and were checked, and a child is one level below its parent. `Bundle.sound_of_applyAll`
carries this over a whole sequence of edits.
-/

namespace Offload.Container

section Attributes

/-- An attribute may be written exactly if its key and its value survive on a line of their own. -/
theorem checkAttribute_eq_ok_iff {key : String} {value : Value} :
    checkAttribute key value = .ok () ↔
      (key.toList ≠ [] ∧ '=' ∉ key.toList ∧ '\n' ∉ key.toList) ∧
        ∀ content, value = .text content → '\n' ∉ content.toList := by
  unfold checkAttribute
  by_cases bad : key.toList = [] ∨ '=' ∈ key.toList ∨ '\n' ∈ key.toList
  · rw [if_pos (by simpa [or_assoc] using bad)]
    simp only [reduceCtorEq, false_iff]
    rintro ⟨⟨nonempty, equals, lineFeed⟩, -⟩
    exact bad.elim nonempty (Or.rec equals lineFeed)
  · rw [if_neg (by simpa [or_assoc] using bad)]
    simp only [not_or] at bad
    cases value with
    | int n => simp [bad]
    | text content => by_cases lineFeed : '\n' ∈ content.toList <;> simp [bad, lineFeed]

theorem Attributes.mem_put {attributes : Attributes} {key : String} {value : Value}
    {entry : String × Value} (member : entry ∈ attributes.put key value) :
    entry = (key, value) ∨ entry ∈ attributes := by
  induction attributes with
  | nil => exact .inl (List.mem_singleton.mp member)
  | cons first rest ih =>
    obtain ⟨known, old⟩ := first
    unfold Attributes.put at member
    split at member
    · rename_i same
      subst same
      exact (List.mem_cons.mp member).imp_right (List.mem_cons_of_mem _)
    · rcases List.mem_cons.mp member with rfl | later
      · exact .inr (List.mem_cons_self ..)
      · exact (ih later).imp_right (List.mem_cons_of_mem _)

theorem Attributes.forall_put {property : String × Value → Prop} {attributes : Attributes}
    (all : ∀ entry ∈ attributes, property entry) {key : String} {value : Value}
    (new : property (key, value)) : ∀ entry ∈ attributes.put key value, property entry := by
  intro entry member
  rcases mem_put member with rfl | old
  · exact new
  · exact all entry old

theorem Attributes.nodup_put {attributes : Attributes} (distinct : (attributes.map (·.1)).Nodup)
    (key : String) (value : Value) : ((attributes.put key value).map (·.1)).Nodup := by
  rw [keys_put]
  split
  · exact distinct
  · rename_i fresh
    exact List.nodup_append.mpr ⟨distinct, by simp,
      fun known member other new same =>
        fresh (List.mem_singleton.mp new ▸ same ▸ member)⟩

end Attributes

namespace Node

/-- A node whose attributes were written one by one, each checked, and whose children are one level
below it. -/
structure Sound (node : Node) : Prop where
  distinct : (node.attributes.map (·.1)).Nodup
  checked : ∀ entry ∈ node.attributes, checkAttribute entry.1 entry.2 = .ok ()
  deeper : ∀ child ∈ node.children, child.depth = node.depth + 1

theorem sound_bare (name : String) (depth : Nat) : (bare name depth).Sound :=
  ⟨List.nodup_nil, fun _ member => absurd member List.not_mem_nil,
    fun _ member => absurd member List.not_mem_nil⟩

theorem Sound.put {node : Node} (sound : node.Sound) {key : String} {value : Value}
    (accepted : checkAttribute key value = .ok ()) : (node.put key value).Sound :=
  ⟨Attributes.nodup_put sound.distinct key value, Attributes.forall_put sound.checked accepted,
    sound.deeper⟩

theorem Sound.push {node child : Node} (sound : node.Sound)
    (below : child.depth = node.depth + 1) : (node.push child).Sound :=
  ⟨sound.distinct, sound.checked, forall_children_push sound.deeper below⟩

/-- A change that keeps one tree sound keeps sound every tree it is made in. -/
theorem Everywhere.sound_update {change : Node → Node} (keeps : KeepsPlace change)
    (changed : ∀ node, node.Everywhere Sound → (change node).Everywhere Sound)
    {node : Node} (sound : node.Everywhere Sound) (path : List Nat) :
    (node.update change path).Everywhere Sound := by
  induction path generalizing node with
  | nil => exact changed node sound
  | cons index path ih =>
    refine everywhere_iff.mpr
      ⟨⟨sound.self.distinct, sound.self.checked, fun child member => ?_⟩, fun child member => ?_⟩
    · rcases mem_modify member with old | ⟨old, present, rfl⟩
      · exact sound.self.deeper child old
      · exact ((keeps.update path).depth old).trans (sound.self.deeper old present)
    · rcases mem_modify member with old | ⟨old, present, rfl⟩
      · exact sound.child old
      · exact ih (sound.child present)

end Node

namespace Bundle

open Node

/-- A bundle whose tree is sound and hangs from the root. -/
structure Sound (bundle : Bundle) : Prop where
  name : bundle.root.name = Node.root.name
  depth : bundle.root.depth = Node.root.depth
  nodes : bundle.root.Everywhere Node.Sound

theorem sound_empty : empty.Sound :=
  ⟨rfl, rfl, everywhere_bare (sound_bare _ _)⟩

theorem everywhere_sound_attachment (depth start size : Nat) :
    (attachment depth start size).Everywhere Node.Sound := by
  have described : ((bare attachmentName depth).put "start" (.int (Int64.ofNat start))).Sound :=
    (sound_bare _ _).put (checkAttribute_eq_ok_iff.mpr (by simp))
  have sound : (attachment depth start size).Sound :=
    described.put (checkAttribute_eq_ok_iff.mpr (by simp))
  exact ((everywhere_bare (sound_bare _ _)).put described).put sound

theorem keepsPlace_attach (start size : Nat) :
    KeepsPlace fun node => node.push (attachment (node.depth + 1) start size) :=
  ⟨fun _ => rfl, fun _ => rfl⟩

/-- A change at the end of a path keeps a bundle sound, whatever becomes of the appendix. -/
private theorem Sound.update {bundle : Bundle} (sound : bundle.Sound) {change : Node → Node}
    (keeps : KeepsPlace change)
    (changed : ∀ node, node.Everywhere Node.Sound → (change node).Everywhere Node.Sound)
    (path : List Nat) (appendix : List UInt8) : Sound ⟨bundle.root.update change path, appendix⟩ :=
  ⟨((keeps.update path).name _).trans sound.name, ((keeps.update path).depth _).trans sound.depth,
    sound.nodes.sound_update keeps changed path⟩

theorem apply_put_eq_ok_iff {bundle next : Bundle} {path : List Nat} {key : String}
    {value : Value} : bundle.apply (.put path key value) = .ok next ↔
      checkAttribute key value = .ok () ∧
        ⟨bundle.root.update (·.put key value) path, bundle.appendix⟩ = next := by
  simp only [Bundle.apply, Bundle.put, Except.bind_eq_ok_iff]
  constructor
  · rintro ⟨⟨⟩, accepted, done⟩
    exact ⟨accepted, Except.ok.inj done⟩
  · rintro ⟨accepted, rfl⟩
    exact ⟨(), accepted, rfl⟩

/-- Every edit that is not refused keeps a bundle sound. -/
theorem Sound.apply {bundle next : Bundle} (sound : bundle.Sound) {edit : Edit}
    (done : bundle.apply edit = .ok next) : next.Sound := by
  cases edit with
  | addChild path name =>
    obtain rfl := Except.ok.inj done
    exact sound.update (keepsPlace_addChild name)
      (fun node all => all.push (everywhere_bare (sound_bare _ _)) (all.self.push rfl)) path _
  | put path key value =>
    obtain ⟨accepted, rfl⟩ := apply_put_eq_ok_iff.mp done
    exact sound.update (keepsPlace_put key value) (fun node all => all.put (all.self.put accepted))
      path _
  | attach path payload =>
    obtain rfl := Except.ok.inj done
    exact sound.update (keepsPlace_attach _ _)
      (fun node all => all.push (everywhere_sound_attachment _ _ _) (all.self.push rfl)) path _

theorem Sound.applyAll {bundle next : Bundle} (sound : bundle.Sound) {edits : List Edit}
    (done : bundle.applyAll edits = .ok next) : next.Sound := by
  induction edits generalizing bundle with
  | nil =>
    obtain rfl := Except.ok.inj done
    exact sound
  | cons edit edits ih =>
    unfold Bundle.applyAll at done ih
    rw [List.foldlM_cons] at done
    obtain ⟨middle, step, rest⟩ := Except.bind_eq_ok_iff.mp done
    exact ih (sound.apply step) rest

/-- Whatever edits built a bundle, it is sound. -/
theorem sound_of_applyAll {edits : List Edit} {bundle : Bundle}
    (built : empty.applyAll edits = .ok bundle) : bundle.Sound :=
  sound_empty.applyAll built

end Bundle

end Offload.Container
