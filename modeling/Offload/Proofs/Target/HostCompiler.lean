import Offload.Proofs.Settings.Kinds
import Offload.Target.Decision

/-! # Which compiler is selected

The compiler is found by a running maximum over what the variants want. `IsStrongest` says of a result
that it is one of the wanted preferences and that none exceeds it; `isStrongest_foldl` shows this of
the scan. How strongly a compiler is wanted depends on the option that names it alone, so only which
of these options are wanted and set matters: the scan, its ties and the fallback together come to
`Compilers.select`, which asks three options in a fixed order.
-/

namespace Offload.Target

open Options
open Settings (Answers)

section Scan

/-- The most strongly wanted of some preferences: none only if none is wanted. -/
inductive IsStrongest (wanted : List (Option Preference)) : Option Preference → Prop where
  | unwanted (nothing : ∀ preference, some preference ∉ wanted) : IsStrongest wanted none
  | among {preference : Preference} (member : some preference ∈ wanted)
      (highest : ∀ other, some other ∈ wanted → other.priority ≤ preference.priority) :
      IsStrongest wanted (some preference)

variable {wanted wanted' rest : List (Option Preference)} {best? : Option Preference}

theorem IsStrongest.le (strongest : IsStrongest wanted best?) {other : Preference}
    (member : some other ∈ wanted) :
    ∃ preference, best? = some preference ∧ other.priority ≤ preference.priority := by
  cases strongest with
  | unwanted nothing => exact absurd member (nothing other)
  | among _ highest => exact ⟨_, rfl, highest other member⟩

/-- More preferences leave the strongest one as it is if each is exceeded by one that was there. -/
theorem IsStrongest.extend (strongest : IsStrongest wanted best?)
    (more : ∀ preference, some preference ∈ wanted → some preference ∈ wanted')
    (exceeded : ∀ other, some other ∈ wanted' →
      ∃ preference, some preference ∈ wanted ∧ other.priority ≤ preference.priority) :
    IsStrongest wanted' best? := by
  cases strongest with
  | unwanted nothing =>
    refine .unwanted fun other member => ?_
    obtain ⟨preference, present, -⟩ := exceeded other member
    exact nothing preference present
  | among member highest =>
    refine .among (more _ member) fun other member => ?_
    obtain ⟨preference, present, le⟩ := exceeded other member
    exact Nat.le_trans le (highest preference present)

/-- The stronger of two is one of them, and neither exceeds it. -/
theorem isStrongest_stronger (first second : Option Preference) :
    IsStrongest [first, second] (stronger first second) := by
  cases first with
  | none =>
    cases second with
    | none => exact .unwanted (by simp)
    | some second => exact .among (by simp) (by simp)
  | some first =>
    cases second with
    | none => exact .among (by simp) (by simp)
    | some second =>
      rw [stronger]
      split
      · rename_i less
        exact .among (by simp) (by simpa using Nat.le_of_lt less)
      · rename_i notLess
        exact .among (by simp) (by simpa using Nat.le_of_not_lt notLess)

/-- One step of the scan: the two that were compared may stand for the stronger of them. -/
theorem IsStrongest.step {first second : Option Preference}
    (strongest : IsStrongest (stronger first second :: rest) best?) :
    IsStrongest (first :: second :: rest) best? := by
  have compared := isStrongest_stronger first second
  apply strongest.extend
  · intro preference member
    rcases List.mem_cons.mp member with isStronger | later
    · rw [← isStronger] at compared
      cases compared with
      | among member _ => exact List.mem_append_left rest member
    · exact List.mem_append_right [first, second] later
  · intro other member
    rcases List.mem_append.mp (show some other ∈ [first, second] ++ rest from member) with
      among | later
    · obtain ⟨preference, isStronger, le⟩ := compared.le among
      exact ⟨preference, isStronger ▸ List.mem_cons_self .., le⟩
    · exact ⟨other, List.mem_cons_of_mem _ later, Nat.le_refl _⟩

/-- The scan finds the strongest of the preferences it went over. -/
theorem isStrongest_foldl (best? : Option Preference) (wanted : List (Option Preference)) :
    IsStrongest (best? :: wanted) (wanted.foldl stronger best?) := by
  induction wanted generalizing best? with
  | nil =>
    cases best? with
    | none => exact .unwanted (by simp)
    | some best => exact .among (by simp) (by simp)
  | cons first rest ih => exact (ih (stronger best? first)).step

end Scan

section Selection

/-- Whether a variant is compiled by nvc++. -/
def Variant.wantsNvcxx : Variant → Bool
  | .cudaNvcxx _ => true
  | .ompLibraryOnly | .ompAccelerated | .cuda _ | .hip _ | .sscp => false

/-- Whether a variant is compiled by clang. -/
def Variant.wantsClang : Variant → Bool
  | .ompAccelerated | .cuda _ | .hip _ | .sscp => true
  | .ompLibraryOnly | .cudaNvcxx _ => false

/-- What the options that name compilers are set to. -/
structure Compilers where
  nvcxx? : Option String
  clang? : Option String
  cpu? : Option String

namespace Compilers

/-- The settings name these compilers. -/
structure Of (settings : Settings) (compilers : Compilers) : Prop where
  nvcxx : settings.value? "nvcxx" = .ok compilers.nvcxx?
  clang : settings.value? "clang" = .ok compilers.clang?
  cpu : settings.value? "cpu-compiler" = .ok compilers.cpu?

/-- The compiler for some variants: nvc++ and clang are asked for only if a variant is compiled by
them, and one that is not set is passed over. -/
def select (compilers : Compilers) (variants : List Variant) : Option String :=
  ((if variants.any (·.wantsNvcxx) then compilers.nvcxx? else none).or
    (if variants.any (·.wantsClang) then compilers.clang? else none)).or compilers.cpu?

/-- What a variant wants of these compilers. -/
def wanted (compilers : Compilers) : Variant → Option Preference
  | .ompLibraryOnly => compilers.cpu?.map (⟨·, 1⟩)
  | .ompAccelerated | .cuda _ | .hip _ | .sscp => compilers.clang?.map (⟨·, 2⟩)
  | .cudaNvcxx _ => compilers.nvcxx?.map (⟨·, 3⟩)

variable {settings : Settings} {compilers : Compilers} {variants : List Variant}

theorem exists_of (answers : Answers Table.builtin settings) :
    ∃ compilers : Compilers, compilers.Of settings := by
  have nvcxx : Builtin.nvcxx ∈ Table.builtin := by simp [Table.builtin]
  have clang : Builtin.clang ∈ Table.builtin := by simp [Table.builtin]
  have cpuCompiler : Builtin.cpuCompiler ∈ Table.builtin := by simp [Table.builtin]
  obtain ⟨nvcxx?, isNvcxx⟩ := answers.succeeds_value? nvcxx rfl
  obtain ⟨clang?, isClang⟩ := answers.succeeds_value? clang rfl
  obtain ⟨cpu?, isCpu⟩ := answers.succeeds_value? cpuCompiler rfl
  exact ⟨⟨nvcxx?, clang?, cpu?⟩, isNvcxx, isClang, isCpu⟩

theorem Of.preference?_eq (named : compilers.Of settings) (variant : Variant) :
    variant.preference? settings = .ok (compilers.wanted variant) := by
  have known (option : Entry) (priority : Nat) {executable? : Option String}
      (isSet : settings.value? option.key = .ok executable?)
      (chosen : variant.compilerOption = (option, priority)) :
      variant.preference? settings = .ok (executable?.map (⟨·, priority⟩)) := by
    simp only [Variant.preference?, chosen, isSet]
    rfl
  cases variant with
  | ompLibraryOnly => exact known _ _ named.cpu rfl
  | ompAccelerated | cuda | hip | sscp => exact known _ _ named.clang rfl
  | cudaNvcxx => exact known _ _ named.nvcxx rfl

theorem Of.strongest_eq (named : compilers.Of settings) (best? : Option Preference)
    (variants : List Variant) : strongest settings best? variants =
      .ok ((variants.map compilers.wanted).foldl stronger best?) := by
  induction variants generalizing best? with
  | nil => rfl
  | cons variant rest ih =>
    simp only [strongest, named.preference?_eq variant]
    exact ih _

/-- An option is passed over if everything that is wanted is wanted less than its compiler: no variant
wants it, or it is not set. -/
theorem asked_eq_none {asks : Variant → Bool} {executable? : Option String} {priority : Nat}
    (wants : ∀ variant, asks variant = true →
      compilers.wanted variant = executable?.map (⟨·, priority⟩))
    (less : ∀ preference, some preference ∈ variants.map compilers.wanted →
      preference.priority < priority) :
    (if variants.any asks then executable? else none) = none := by
  split
  · rename_i asked
    obtain ⟨variant, member, asks⟩ := List.any_eq_true.mp asked
    cases set : executable? with
    | none => rfl
    | some executable =>
      have offered : some ⟨executable, priority⟩ ∈ variants.map compilers.wanted :=
        List.mem_map.mpr ⟨variant, member, by rw [wants variant asks, set]; rfl⟩
      exact absurd (less _ offered) (Nat.lt_irrefl priority)
  · rfl

theorem wanted_of_wantsNvcxx (variant : Variant) (wants : variant.wantsNvcxx = true) :
    compilers.wanted variant = compilers.nvcxx?.map (⟨·, 3⟩) := by
  cases variant with
  | cudaNvcxx => rfl
  | ompLibraryOnly | ompAccelerated | cuda | hip | sscp => contradiction

theorem wanted_of_wantsClang (variant : Variant) (wants : variant.wantsClang = true) :
    compilers.wanted variant = compilers.clang?.map (⟨·, 2⟩) := by
  cases variant with
  | ompAccelerated | cuda | hip | sscp => rfl
  | ompLibraryOnly | cudaNvcxx => contradiction

/-- What the strongest preference and the fallback come to. A preference tells which option it was
taken from by its priority, and every option that would be asked before was passed over. -/
theorem executable_of_isStrongest {best? : Option Preference}
    (strongest : IsStrongest (variants.map compilers.wanted) best?) :
    (best?.map (·.executable)).or compilers.cpu? = compilers.select variants := by
  cases strongest with
  | unwanted nothing =>
    rw [select, asked_eq_none wanted_of_wantsNvcxx fun preference member =>
        absurd member (nothing preference),
      asked_eq_none wanted_of_wantsClang fun preference member => absurd member (nothing preference)]
    rfl
  | @among best member highest =>
    have passed {asks : Variant → Bool} {executable? : Option String} {priority : Nat}
        (wants : ∀ variant, asks variant = true →
          compilers.wanted variant = executable?.map (⟨·, priority⟩))
        (less : best.priority < priority) : (if variants.any asks then executable? else none) = none :=
      asked_eq_none wants fun other offered => Nat.lt_of_le_of_lt (highest other offered) less
    obtain ⟨variant, present, wants⟩ := List.mem_map.mp member
    have asked {asks : Variant → Bool} (wanting : asks variant = true) (executable? : Option String) :
        (if variants.any asks then executable? else none) = executable? :=
      if_pos (List.any_eq_true.mpr ⟨variant, present, wanting⟩)
    rw [select]
    cases variant with
    | cudaNvcxx =>
      obtain ⟨executable, set, rfl⟩ := Option.map_eq_some_iff.mp wants
      rw [asked rfl, set]
      rfl
    | ompAccelerated | cuda | hip | sscp =>
      obtain ⟨executable, set, rfl⟩ := Option.map_eq_some_iff.mp wants
      rw [passed wanted_of_wantsNvcxx (by simp), asked rfl, set]
      rfl
    | ompLibraryOnly =>
      obtain ⟨executable, set, rfl⟩ := Option.map_eq_some_iff.mp wants
      rw [passed wanted_of_wantsNvcxx (by simp), passed wanted_of_wantsClang (by simp), set]
      rfl

theorem Of.selectHostCompiler_eq (named : compilers.Of settings) (variants : List Variant) :
    selectHostCompiler settings variants =
      (compilers.select variants).elim (.error (.noHostCompiler fallbackOption)) .ok := by
  have strongest : IsStrongest (variants.map compilers.wanted)
      ((variants.map compilers.wanted).foldl stronger none) := by
    apply (isStrongest_foldl none (variants.map compilers.wanted)).extend
    · intro preference member
      exact (List.mem_cons.mp member).resolve_left (by simp)
    · exact fun other member => ⟨other, List.mem_cons_of_mem _ member, Nat.le_refl _⟩
  rw [← executable_of_isStrongest strongest]
  simp only [selectHostCompiler, named.strongest_eq]
  cases (variants.map compilers.wanted).foldl stronger none with
  | some preference => rfl
  | none =>
    have fallback : settings.value? Builtin.cpuCompiler.key = .ok compilers.cpu? := named.cpu
    change (ofSettings (settings.value? Builtin.cpuCompiler.key) >>= _) = _
    rw [fallback]
    cases compilers.cpu? with
    | none => rfl
    | some executable => rfl

end Compilers

/-- The compiler of an invocation in closed form: the strengths, the ties of the scan and the fallback
only say in which order three options are asked. The order of the variants and how often one occurs
play no part. -/
theorem selectHostCompiler_of_resolve {arguments : List String} {environment : Environment}
    {defaults : Settings.Defaults} {settings : Settings}
    (resolved : Settings.resolve Table.builtin arguments environment defaults = .ok settings) :
    ∃ compilers : Compilers, compilers.Of settings ∧ ∀ variants,
      selectHostCompiler settings variants = (compilers.select variants).elim
        (.error (.noHostCompiler "cpu-compiler (--acpp-cpu-cxx)")) .ok ∧
      ∀ others, variants.Perm others →
        selectHostCompiler settings others = selectHostCompiler settings variants := by
  obtain ⟨compilers, named⟩ :=
    Compilers.exists_of (Settings.answers_of_resolve Table.regular_builtin resolved)
  refine ⟨compilers, named, fun variants => ⟨named.selectHostCompiler_eq variants, ?_⟩⟩
  intro others reordered
  rw [named.selectHostCompiler_eq, named.selectHostCompiler_eq, Compilers.select, Compilers.select,
    reordered.any_eq, reordered.any_eq]

/-- nvc++ is wanted most but not set, so clang is selected in either order. -/
theorem selectHostCompiler_of_resolve_unset : ∃ settings,
    Settings.resolve Table.builtin ["--acpp-clang=clang++", "--acpp-cpu-cxx=g++"] []
      Settings.Defaults.empty = .ok settings ∧
    selectHostCompiler settings [.ompLibraryOnly, .cudaNvcxx none, .sscp] = .ok "clang++" ∧
    selectHostCompiler settings [.sscp, .cudaNvcxx none, .ompLibraryOnly] = .ok "clang++" ∧
    selectHostCompiler settings [.cudaNvcxx none] = .ok "g++" := by
  have runs : ∃ settings,
      Settings.resolve Table.builtin ["--acpp-clang=clang++", "--acpp-cpu-cxx=g++"] []
        Settings.Defaults.empty = .ok settings ∧
      settings.value? "nvcxx" = .ok none ∧ settings.value? "clang" = .ok (some "clang++") ∧
      settings.value? "cpu-compiler" = .ok (some "g++") := ⟨_, rfl, rfl, rfl, rfl⟩
  obtain ⟨settings, resolved, noNvcxx, clang, cpu⟩ := runs
  obtain ⟨⟨nvcxx?, clang?, cpu?⟩, named, selects⟩ := selectHostCompiler_of_resolve resolved
  obtain rfl : none = nvcxx? := Except.ok.inj (noNvcxx.symm.trans named.nvcxx)
  obtain rfl : some "clang++" = clang? := Except.ok.inj (clang.symm.trans named.clang)
  obtain rfl : some "g++" = cpu? := Except.ok.inj (cpu.symm.trans named.cpu)
  obtain ⟨first, reordered⟩ := selects [.ompLibraryOnly, .cudaNvcxx none, .sscp]
  refine ⟨settings, resolved, first, ?_, (selects [.cudaNvcxx none]).1⟩
  rw [reordered [.sscp, .cudaNvcxx none, .ompLibraryOnly] (List.reverse_perm _).symm]
  exact first

end Selection

end Offload.Target
