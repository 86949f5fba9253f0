import Offload.Proofs.Container.Labels

/-! # Round trips

Which bundles come back from their bytes. Writing checks attributes only, and less than reading
needs: a name is not checked, and neither is how a key begins or how a text ends. So the condition
under which a bundle is read back is one on its labels. Payloads never matter.
-/

namespace Offload.Container.Bundle

/-- A bundle is read back as it was built exactly if its labels are clean and none of its texts
denotes an integer. -/
theorem parse_serialize_eq_self_iff {edits : List Edit} {bundle : Bundle}
    (built : empty.applyAll edits = .ok bundle) :
    parse bundle.serialize = .ok bundle ↔ bundle.root.Clean ∧
      ∀ node ∈ bundle.root.preorder, ∀ entry ∈ node.attributes, ¬ entry.2.Ambiguous := by
  have sound := sound_of_applyAll built
  constructor
  · intro parsed
    have unambiguous : bundle.root.Everywhere fun node => ∀ entry ∈ node.attributes,
        ¬ entry.2.Ambiguous := by
      intro node inside entry member
      obtain ⟨key, value⟩ := entry
      have plain := everywhere_plain_of_parse parsed node inside
      cases value with
      | int n => exact id
      | text content => exact (plain.texts key content member).2
    refine ⟨clean_of_parse_serialize sound ?_, unambiguous⟩
    rw [(Node.reread_eq_self_iff _).mpr unambiguous]
    exact parsed
  · rintro ⟨clean, unambiguous⟩
    rw [parse_serialize sound clean, (Node.reread_eq_self_iff _).mpr unambiguous]

/-- A kernel for one architecture, with its image. -/
def kernelEdits : List Edit :=
  [.addChild [] "kernel", .put [0] "arch" (.text "sm_90"), .attach [0] [0xff, 0x0a]]

theorem parse_serialize_kernelEdits : ∃ bundle,
    empty.applyAll kernelEdits = .ok bundle ∧ parse bundle.serialize = .ok bundle := by
  have built : empty.applyAll kernelEdits = .ok _ := rfl
  exact ⟨_, built, (parse_serialize_eq_self_iff built).mpr (by decide)⟩

/-- A bundle is read back, up to texts that denote integers, exactly if its labels are clean. -/
theorem parse_serialize_eq_reread_iff {edits : List Edit} {bundle : Bundle}
    (built : empty.applyAll edits = .ok bundle) :
    parse bundle.serialize = .ok ⟨bundle.root.reread, bundle.appendix⟩ ↔ bundle.root.Clean := by
  have sound := sound_of_applyAll built
  constructor
  · intro parsed
    exact clean_of_parse_serialize sound parsed
  · intro clean
    exact parse_serialize sound clean

theorem parse_serialize_lineFeed : ∃ bundle,
    empty.applyAll [.addChild [] "a\nb"] = .ok bundle ∧
      parse bundle.serialize ≠ .ok ⟨bundle.root.reread, bundle.appendix⟩ := by
  have built : empty.applyAll [.addChild [] "a\nb"] = .ok _ := rfl
  exact ⟨_, built, mt (parse_serialize_eq_reread_iff built).mp (by decide)⟩

end Offload.Container.Bundle
