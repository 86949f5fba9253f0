import Mathlib.Data.List.Forall2

/-! # When a computation that can fail succeeds

A sequence succeeds when both of its parts do and fails where the first of them fails, renaming a
fault makes no success of it, and a traversal succeeds when every element does. A fold whose elements
are refused for themselves fails at the first such element. Every function of the project that can fail
is opened by these, and one that does not fail is shown to by the rules of `Succeeds`.
-/

namespace Except

variable {ε ε' α β : Type}

theorem bind_eq_ok_iff {first : Except ε α} {next : α → Except ε β} {result : β} :
    first >>= next = .ok result ↔ ∃ middle, first = .ok middle ∧ next middle = .ok result := by
  cases first with
  | error fault =>
    constructor
    · intro absurdity
      contradiction
    · rintro ⟨middle, absurdity, -⟩
      contradiction
  | ok middle =>
    constructor
    · intro done
      exact ⟨middle, rfl, done⟩
    · rintro ⟨other, same, done⟩
      obtain rfl := Except.ok.inj same
      exact done

theorem bind_eq_error_iff {first : Except ε α} {next : α → Except ε β} {fault : ε} :
    first >>= next = .error fault ↔
      first = .error fault ∨ ∃ middle, first = .ok middle ∧ next middle = .error fault := by
  cases first with
  | error other =>
    constructor
    · intro failed
      obtain rfl := Except.error.inj failed
      exact .inl rfl
    · rintro (same | ⟨middle, absurdity, -⟩)
      · obtain rfl := Except.error.inj same
        rfl
      · contradiction
  | ok middle =>
    constructor
    · intro failed
      exact .inr ⟨middle, rfl, failed⟩
    · rintro (absurdity | ⟨other, same, failed⟩)
      · contradiction
      · obtain rfl := Except.ok.inj same
        exact failed

theorem not_exists_ok_iff {computed : Except ε α} :
    (¬ ∃ result, computed = .ok result) ↔ ∃ fault, computed = .error fault := by
  cases computed with
  | error fault => simp
  | ok value => simp

theorem mapError_eq_ok_iff {computed : Except ε α} {rename : ε → ε'} {result : α} :
    computed.mapError rename = .ok result ↔ computed = .ok result := by
  cases computed with
  | error fault => simp [Except.mapError]
  | ok value => simp [Except.mapError]

theorem mapError_eq_error_iff {computed : Except ε α} {rename : ε → ε'} {fault : ε'} :
    computed.mapError rename = .error fault ↔
      ∃ cause, computed = .error cause ∧ rename cause = fault := by
  cases computed with
  | error cause => simp [Except.mapError]
  | ok value => simp [Except.mapError]

theorem mapError_bind (first : Except ε α) (next : α → Except ε β) (rename : ε → ε') :
    (first >>= next).mapError rename =
      first.mapError rename >>= fun middle => (next middle).mapError rename := by
  cases first <;> rfl

theorem mapError_mapError {ε'' : Type} (computed : Except ε α) (rename : ε → ε')
    (again : ε' → ε'') :
    (computed.mapError rename).mapError again = computed.mapError (again ∘ rename) := by
  cases computed <;> rfl

theorem mapM_eq_ok_iff {step : α → Except ε β} {inputs : List α} {results : List β} :
    inputs.mapM step = .ok results ↔
      List.Forall₂ (fun input result => step input = .ok result) inputs results := by
  induction inputs generalizing results with
  | nil =>
    rw [List.mapM_nil, List.forall₂_nil_left_iff]
    exact ⟨fun done => (Except.ok.inj done).symm, fun none => none ▸ rfl⟩
  | cons input inputs ih =>
    rw [List.mapM_cons, bind_eq_ok_iff, List.forall₂_cons_left_iff]
    apply exists_congr
    intro result
    rw [bind_eq_ok_iff]
    constructor
    · rintro ⟨first, rest, later, done⟩
      exact ⟨rest, first, ih.mp later, (Except.ok.inj done).symm⟩
    · rintro ⟨rest, first, later, rfl⟩
      exact ⟨first, rest, ih.mpr later, rfl⟩

/-- A traversal fails by its first element that fails. -/
theorem mapM_eq_error_iff {step : α → Except ε β} {inputs : List α} {fault : ε} :
    inputs.mapM step = .error fault ↔ ∃ front input back, inputs = front ++ input :: back ∧
      (∀ earlier ∈ front, ∃ result, step earlier = .ok result) ∧ step input = .error fault := by
  induction inputs with
  | nil =>
    constructor
    · intro absurdity
      contradiction
    · rintro ⟨front, input, back, split, -⟩
      simp at split
  | cons first rest ih =>
    rw [List.mapM_cons, bind_eq_error_iff]
    constructor
    · rintro (failed | ⟨result, done, later⟩)
      · exact ⟨[], first, rest, rfl, fun _ member => absurd member List.not_mem_nil, failed⟩
      · obtain failed | ⟨_, -, absurdity⟩ := bind_eq_error_iff.mp later
        · obtain ⟨front, input, back, rfl, earlier, failed⟩ := ih.mp failed
          exact ⟨first :: front, input, back, rfl,
            List.forall_mem_cons.mpr ⟨⟨result, done⟩, earlier⟩, failed⟩
        · contradiction
    · rintro ⟨front, input, back, split, earlier, failed⟩
      cases front with
      | nil =>
        obtain ⟨rfl, -⟩ := List.cons.inj split
        exact .inl failed
      | cons head front =>
        obtain ⟨rfl, rfl⟩ := List.cons.inj split
        obtain ⟨⟨result, done⟩, others⟩ := List.forall_mem_cons.mp earlier
        exact .inr ⟨result, done,
          bind_eq_error_iff.mpr (.inl (ih.mpr ⟨front, input, back, rfl, others, failed⟩))⟩

/-- The computation does not fail. -/
def Succeeds (computed : Except ε α) : Prop :=
  ∃ result, computed = .ok result

theorem Succeeds.ok (result : α) : Succeeds (.ok result : Except ε α) :=
  ⟨result, rfl⟩

theorem Succeeds.bind {first : Except ε α} {next : α → Except ε β} (succeeds : first.Succeeds)
    (later : ∀ middle, first = .ok middle → (next middle).Succeeds) : (first >>= next).Succeeds := by
  obtain ⟨middle, done⟩ := succeeds
  obtain ⟨result, finished⟩ := later middle done
  exact ⟨result, bind_eq_ok_iff.mpr ⟨middle, done, finished⟩⟩

theorem Succeeds.mapError {computed : Except ε α} (succeeds : computed.Succeeds)
    (rename : ε → ε') : (computed.mapError rename).Succeeds := by
  obtain ⟨result, rfl⟩ := succeeds
  exact ⟨result, rfl⟩

theorem Succeeds.mapM {step : α → Except ε β} {inputs : List α}
    (each : ∀ input ∈ inputs, (step input).Succeeds) : (inputs.mapM step).Succeeds := by
  induction inputs with
  | nil => exact .ok []
  | cons input inputs ih =>
    obtain ⟨first, others⟩ := List.forall_mem_cons.mp each
    rw [List.mapM_cons]
    exact first.bind fun result _ => (ih others).bind fun results _ => .ok (result :: results)

/-- A sequence whose first part does not fail fails as its second part does. -/
theorem Succeeds.bind_eq_error_iff {first : Except ε α} {next : α → Except ε β} {fault : ε}
    (succeeds : first.Succeeds) :
    first >>= next = .error fault ↔ ∃ middle, first = .ok middle ∧ next middle = .error fault := by
  rw [Except.bind_eq_error_iff]
  apply or_iff_right
  intro failed
  obtain ⟨result, done⟩ := succeeds
  exact nomatch done.symm.trans failed

/-- Two computations that fail with the same fault or have related results. -/
inductive Alike (related : α → β → Prop) : Except ε α → Except ε β → Prop where
  | error (fault : ε) : Alike related (.error fault) (.error fault)
  | ok {result : α} {result' : β} (results : related result result') :
    Alike related (.ok result) (.ok result')

theorem Alike.refl (computed : Except ε α) : Alike Eq computed computed := by
  cases computed with
  | error fault => exact .error fault
  | ok result => exact .ok rfl

theorem Alike.bind {α' β' : Type} {related : α → α' → Prop} {related' : β → β' → Prop}
    {first : Except ε α} {first' : Except ε α'} {next : α → Except ε β} {next' : α' → Except ε β'}
    (firsts : Alike related first first')
    (nexts : ∀ middle middle', related middle middle' →
      Alike related' (next middle) (next' middle')) :
    Alike related' (first >>= next) (first' >>= next') := by
  cases firsts with
  | error fault => exact .error fault
  | ok results => exact nexts _ _ results

theorem Alike.bind_eq {α' : Type} {related : α → α' → Prop} {first : Except ε α}
    {first' : Except ε α'} {next : α → Except ε β} {next' : α' → Except ε β}
    (firsts : Alike related first first')
    (nexts : ∀ middle middle', related middle middle' → next middle = next' middle') :
    first >>= next = first' >>= next' := by
  cases firsts with
  | error fault => rfl
  | ok results => exact nexts _ _ results

theorem Alike.mapError {related : α → β → Prop} {first : Except ε α} {second : Except ε β}
    (both : Alike related first second) (rename : ε → ε') :
    Alike related (first.mapError rename) (second.mapError rename) := by
  cases both with
  | error fault => exact .error (rename fault)
  | ok results => exact .ok results

end Except
