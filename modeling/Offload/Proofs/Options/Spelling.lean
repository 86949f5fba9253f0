import Mathlib.Data.List.Basic
import Offload.Options.Spelling

/-! # Which names are upgraded to a spelling

Legacy beginnings differ from each other and from the current ones, so a current spelling comes from
itself and from one name for each legacy beginning that it replaces (`upgradeBy_eq_append_iff`). No
beginning holds a `=`, so it does not matter whether an argument is upgraded before it is cut or
after (`cut_upgrade`). A text either has no legacy beginning and stays, or has one and loses it
(`upgradeBy_cases`), so the legacy names are those that an upgrade changes, and no upgraded name is
one of them (`isLegacy_upgrade_cut`).
-/

namespace Offload.Options.Spelling

/-- Two beginnings that no text has both of. -/
def Apart (first second : List Char) : Prop :=
  ¬ first <+: second ∧ ¬ second <+: first

instance (first second : List Char) : Decidable (Apart first second) :=
  inferInstanceAs (Decidable (_ ∧ _))

theorem Apart.append_ne {first second : List Char} (apart : Apart first second)
    (rest tail : List Char) : first ++ rest ≠ second ++ tail := by
  intro same
  have begins : first <+: second ++ tail := ⟨rest, same⟩
  rcases List.prefix_or_prefix_of_prefix begins (List.prefix_append second tail) with left | right
  · exact apart.1 left
  · exact apart.2 right

section Replacements

variable {replaced : List (List Char × List Char)}

/-- A text is upgraded to a current beginning from that beginning and from each one it replaces. -/
theorem upgradeBy_eq_append_iff {current : List Char}
    (legacies : replaced.Pairwise fun one other => Apart one.1 other.1)
    (currents : ∀ pair ∈ replaced, pair.2 = current ∨ Apart pair.2 current)
    (kept : ∀ pair ∈ replaced, Apart pair.1 current) (text tail : List Char) :
    upgradeBy replaced text = current ++ tail ↔
      text = current ++ tail ∨ ∃ pair ∈ replaced, pair.2 = current ∧ text = pair.1 ++ tail := by
  induction replaced with
  | nil => simp [upgradeBy]
  | cons pair others ih =>
    obtain ⟨legacy, new⟩ := pair
    obtain ⟨first, later⟩ := List.pairwise_cons.mp legacies
    have inOthers := ih later (fun other member => currents other (List.mem_cons_of_mem _ member))
      (fun other member => kept other (List.mem_cons_of_mem _ member))
    simp only [List.exists_mem_cons_iff]
    unfold upgradeBy
    cases found : Text.afterPrefix? legacy text with
    | none =>
      have differs : text ≠ legacy ++ tail := fun same => by
        rw [Text.afterPrefix?_eq_some_iff.mpr same] at found
        contradiction
      rw [inOthers]
      simp only [differs, and_false, false_or]
    | some rest =>
      -- With this beginning the text has no other one, current or legacy.
      obtain rfl := Text.afterPrefix?_eq_some_iff.mp found
      have noOther : ¬ ∃ pair ∈ others, pair.2 = current ∧ legacy ++ rest = pair.1 ++ tail := by
        rintro ⟨other, member, -, same⟩
        exact (first other member).append_ne _ _ same
      simp only [(kept _ (List.mem_cons_self ..)).append_ne, noOther, false_or, or_false,
        List.append_cancel_left_eq]
      rcases currents _ (List.mem_cons_self ..) with rfl | apart
      · simp
      · have differs : new ≠ current := by
          rintro rfl
          exact apart.1 List.prefix_rfl
        simp [apart.append_ne, differs]

/-- A text with a legacy beginning has this replaced, any other text stays as it is. -/
theorem upgradeBy_cases (replaced : List (List Char × List Char)) (text : List Char) :
    (∀ pair ∈ replaced, ¬ pair.1 <+: text) ∧ upgradeBy replaced text = text ∨
      ∃ pair ∈ replaced, ∃ rest, text = pair.1 ++ rest ∧
        upgradeBy replaced text = pair.2 ++ rest := by
  induction replaced with
  | nil => exact .inl ⟨fun _ member => absurd member List.not_mem_nil, rfl⟩
  | cons pair others ih =>
    obtain ⟨legacy, new⟩ := pair
    unfold upgradeBy
    cases found : Text.afterPrefix? legacy text with
    | some rest =>
      exact .inr ⟨_, List.mem_cons_self .., rest, Text.afterPrefix?_eq_some_iff.mp found, rfl⟩
    | none =>
      have absent : ¬ legacy <+: text := by
        rintro ⟨rest, same⟩
        rw [Text.afterPrefix?_eq_some_iff.mpr same.symm] at found
        contradiction
      rcases ih with ⟨plain, kept⟩ | ⟨other, member, replacedThere⟩
      · exact .inl ⟨List.forall_mem_cons.mpr ⟨absent, plain⟩, kept⟩
      · exact .inr ⟨other, List.mem_cons_of_mem _ member, replacedThere⟩

/-- Where every replacement changes something, the texts that are changed are those with a legacy
beginning. -/
theorem upgradeBy_ne_self_iff (changes : ∀ pair ∈ replaced, pair.1 ≠ pair.2) (text : List Char) :
    upgradeBy replaced text ≠ text ↔ ∃ pair ∈ replaced, pair.1 <+: text := by
  rcases upgradeBy_cases replaced text with ⟨plain, kept⟩ | ⟨pair, member, rest, rfl, upgraded⟩
  · apply iff_of_false
    · exact not_not_intro kept
    · rintro ⟨pair, member, begins⟩
      exact plain pair member begins
  · apply iff_of_true
    · rw [upgraded, ne_eq, List.append_left_inj]
      exact Ne.symm (changes pair member)
    · exact ⟨pair, member, List.prefix_append pair.1 rest⟩

/-- Where no current beginning is a legacy one, not even in part, no upgraded text has a legacy
beginning. -/
theorem not_prefix_upgradeBy (apart : ∀ pair ∈ replaced, ∀ other ∈ replaced, Apart other.1 pair.2)
    (text : List Char) : ∀ other ∈ replaced, ¬ other.1 <+: upgradeBy replaced text := by
  rcases upgradeBy_cases replaced text with ⟨plain, kept⟩ | ⟨pair, member, rest, rfl, upgraded⟩
  · rw [kept]
    exact plain
  · rw [upgraded]
    rintro other present ⟨tail, same⟩
    exact (apart pair member other present).append_ne tail rest same

/-- Beginnings without separators are replaced in the part before the cut. -/
theorem cutAt_upgradeBy {separator : Char}
    (free : ∀ pair ∈ replaced, separator ∉ pair.1 ∧ separator ∉ pair.2) (text : List Char) :
    Text.cutAt separator (upgradeBy replaced text) =
      (upgradeBy replaced (Text.cutAt separator text).1, (Text.cutAt separator text).2) := by
  induction replaced with
  | nil => rfl
  | cons pair others ih =>
    obtain ⟨legacy, new⟩ := pair
    obtain ⟨freeLegacy, freeNew⟩ := free _ (List.mem_cons_self ..)
    have inOthers := ih fun other member => free other (List.mem_cons_of_mem _ member)
    unfold upgradeBy
    cases found : Text.afterPrefix? legacy text with
    | some rest =>
      obtain rfl := Text.afterPrefix?_eq_some_iff.mp found
      have again := Text.afterPrefix?_eq_some_iff.mpr
        (rfl : legacy ++ (Text.cutAt separator rest).1 = _)
      rw [Text.cutAt_append_left freeLegacy, again]
      exact Text.cutAt_append_left freeNew rest
    | none =>
      have absent : Text.afterPrefix? legacy (Text.cutAt separator text).1 = none := by
        apply Option.eq_none_iff_forall_ne_some.mpr
        intro rest begins
        have joined := Text.join_cutAt separator text
        rw [Text.afterPrefix?_eq_some_iff.mp begins, List.append_assoc] at joined
        rw [Text.afterPrefix?_eq_some_iff.mpr joined.symm] at found
        contradiction
      rw [absent]
      exact inOthers

end Replacements

/-- An argument may be cut before it is upgraded. -/
theorem cut_upgrade (argument : String) :
    cut (upgrade argument) = (upgrade (cut argument).1, (cut argument).2) := by
  unfold cut upgrade
  simp only [String.toList_ofList]
  rw [cutAt_upgradeBy (by decide)]

/-- A name is legacy if it has one of the legacy beginnings. -/
theorem isLegacy_iff {name : String} :
    isLegacy name = true ↔ ∃ pair ∈ replacements, pair.1 <+: name.toList := by
  simp only [isLegacy, List.any_eq_true, Text.beginsWith_iff]

/-- The legacy names are those that an upgrade changes, no upgraded name is legacy, so that a second
upgrade changes nothing, and an upgrade changes only what is in front of the first `=`. -/
theorem isLegacy_upgrade_cut (name : String) :
    (isLegacy name = true ↔ upgrade name ≠ name) ∧
      isLegacy (upgrade name) = false ∧ upgrade (upgrade name) = upgrade name ∧
      (cut (upgrade name)).1 = upgrade (cut name).1 ∧ (cut (upgrade name)).2 = (cut name).2 := by
  have changed (text : String) : upgrade text ≠ text ↔ isLegacy text = true := by
    rw [isLegacy_iff, ← upgradeBy_ne_self_iff (by decide) text.toList, upgrade, ne_eq, ne_eq,
      ← String.toList_inj, String.toList_ofList]
  have current : isLegacy (upgrade name) = false := by
    rw [Bool.eq_false_iff, ne_eq, isLegacy_iff, upgrade, String.toList_ofList]
    rintro ⟨pair, member, begins⟩
    exact not_prefix_upgradeBy (by decide) name.toList pair member begins
  refine ⟨(changed name).symm, current, ?_, ?_⟩
  · by_contra again
    rw [(changed _).mp again] at current
    contradiction
  · rw [cut_upgrade]
    exact ⟨rfl, rfl⟩

/-- A second legacy beginning behind the first one stays. -/
example : upgrade "--hipsycl---opensycl-x=HIPSYCL_" = "--acpp---opensycl-x=HIPSYCL_" := by decide

/-- An argument has no value exactly where it holds no `=`. -/
theorem cut_snd_eq_none_iff {argument : String} :
    (cut argument).2 = none ↔ '=' ∉ argument.toList := by
  have whole := @Text.cutAt_eq_none_iff '=' argument.toList
  unfold cut
  rw [Option.map_eq_none_iff]
  constructor
  · intro none
    exact (whole.mp (Prod.ext rfl none)).2
  · intro free
    rw [whole.mpr ⟨rfl, free⟩]

/-- A name is upgraded to a spelling if it is that spelling, or begins as a legacy one instead. -/
theorem upgrade_eq_append_iff {current : String}
    (currents : ∀ pair ∈ replacements, pair.2 = current.toList ∨ Apart pair.2 current.toList)
    (kept : ∀ pair ∈ replacements, Apart pair.1 current.toList) {name tail : String} :
    upgrade name = current ++ tail ↔ name = current ++ tail ∨
      ∃ pair ∈ replacements, pair.2 = current.toList ∧ name = String.ofList pair.1 ++ tail := by
  have spelled := upgradeBy_eq_append_iff (by decide) currents kept name.toList tail.toList
  unfold upgrade
  simpa only [← String.toList_inj, String.toList_append, String.toList_ofList] using spelled

/-- All spellings of the flag with this ending. -/
def flagSpellings (tail : String) : List String :=
  ["--acpp-" ++ tail, "--hipsycl-" ++ tail, "--opensycl-" ++ tail]

/-- All spellings of the variable with this ending, the one that counts most first. -/
def variableSpellings (tail : String) : List String :=
  ["ACPP_" ++ tail, "OPENSYCL_" ++ tail, "HIPSYCL_" ++ tail]

theorem upgrade_eq_flag_iff {name tail : String} :
    upgrade name = "--acpp-" ++ tail ↔ name ∈ flagSpellings tail := by
  rw [upgrade_eq_append_iff (by decide) (by decide)]
  simp [replacements, flagSpellings]

theorem upgrade_eq_variable_iff {name tail : String} :
    upgrade name = "ACPP_" ++ tail ↔ name ∈ variableSpellings tail := by
  have legacy : (∃ pair ∈ replacements, pair.2 = "ACPP_".toList ∧
      name = String.ofList pair.1 ++ tail) ↔ name = "OPENSYCL_" ++ tail ∨ name = "HIPSYCL_" ++ tail := by
    rw [or_comm]
    simp [replacements]
  rw [upgrade_eq_append_iff (by decide) (by decide), legacy]
  simp [variableSpellings]

/-- The older of the two legacy spellings of a variable comes first in name order. -/
theorem hipsycl_le_opensycl (tail : String) : "HIPSYCL_" ++ tail ≤ "OPENSYCL_" ++ tail := by
  apply String.not_lt.mp
  intro less
  change ("OPENSYCL_" ++ tail).toList < ("HIPSYCL_" ++ tail).toList at less
  rw [String.toList_append, String.toList_append] at less
  rcases List.cons_lt_cons_iff.mp less with smaller | ⟨same, -⟩
  · exact absurd smaller (by decide)
  · contradiction

end Offload.Options.Spelling
