import Mathlib.Data.List.Induction
import Offload.Dictionary

/-! # What insertion in order keeps

Values that are inserted one after another leave the last value of each name, in whatever order the
names come (`lookup_foldl_insert`). In a sorted dictionary, where names come once and in order, the
last entry with one of two names is the one that the later name has (`Sorted.getLast?_filter`).
-/

namespace Offload.Dictionary

variable {α β : Type}

theorem lookup_eq_none_iff {entries : Dictionary α} {name : String} :
    lookup? entries name = none ↔ ∀ entry ∈ entries, entry.1 ≠ name := by
  simp [lookup?]

theorem lookup_append (front back : Dictionary α) (name : String) :
    lookup? (front ++ back) name = (lookup? front name).or (lookup? back name) := by
  induction front with
  | nil => rfl
  | cons entry rest ih =>
    rw [List.cons_append, lookup_cons, lookup_cons, ih]
    split <;> rfl

/-- Of several values inserted for a name the last one is kept. -/
theorem lookup_foldl_insert (pairs : List (String × α)) (base : Dictionary α) (name : String) :
    lookup? (pairs.foldl (fun entries (key, value) => insert key value entries) base) name =
      (lookup? pairs.reverse name).or (lookup? base name) := by
  induction pairs generalizing base with
  | nil => rfl
  | cons pair rest ih =>
    obtain ⟨key, value⟩ := pair
    rw [List.foldl_cons, ih, lookup_insert, List.reverse_cons, lookup_append, lookup_cons,
      Option.or_assoc]
    split <;> rfl

/-- The value that the last of several things gives to a name. -/
theorem lookup_reverse_filterMap {gives : β → Option (String × α)} {things : List β} {name : String}
    {keep : β → Bool} {value : β → α} (given : ∀ thing ∈ things, ∀ result,
      gives thing = some (name, result) ↔ keep thing = true ∧ result = value thing) :
    lookup? (things.filterMap gives).reverse name = (things.filter keep).getLast?.map value := by
  induction things using List.reverseRecOn with
  | nil => rfl
  | append_singleton front last ih =>
    have inFront := ih fun thing member => given thing (List.mem_append_left _ member)
    have atLast := given last (by simp)
    rw [List.filterMap_append, List.reverse_append, List.filter_append, lookup_append, inFront,
      List.getLast?_append]
    by_cases kept : keep last = true
    · have gave := (atLast (value last)).mpr ⟨kept, rfl⟩
      simp [gave, kept, lookup_cons]
    · have other : lookup? ([last].filterMap gives).reverse name = none := by
        apply lookup_eq_none_iff.mpr
        intro entry member same
        obtain ⟨thing, isLast, gave⟩ := List.mem_filterMap.mp (List.mem_reverse.mp member)
        rw [List.mem_singleton.mp isLast, ← Prod.eta entry, same] at gave
        exact kept ((atLast entry.2).mp gave).1
      simp [other, kept]

/-- Things that give nothing to a name may be left out. -/
theorem lookup_reverse_filterMap_filter {gives : β → Option (String × α)} {things : List β}
    {name : String} {keep : β → Bool}
    (others : ∀ thing, keep thing = false → ∀ result, gives thing ≠ some (name, result)) :
    lookup? ((things.filter keep).filterMap gives).reverse name =
      lookup? (things.filterMap gives).reverse name := by
  induction things with
  | nil => rfl
  | cons thing rest ih =>
    rw [List.filter_cons, List.filterMap_cons]
    cases kept : keep thing with
    | true =>
      rw [if_pos rfl, List.filterMap_cons]
      cases gives thing with
      | none => exact ih
      | some pair => simp only [List.reverse_cons, lookup_append, ih]
    | false =>
      rw [if_neg Bool.false_ne_true, ih]
      cases gave : gives thing with
      | none => rfl
      | some pair =>
        obtain ⟨other, result⟩ := pair
        have differs : other ≠ name := by
          rintro rfl
          exact others thing kept result gave
        simp [lookup_append, lookup_cons, differs]

theorem sorted_foldl_insert (pairs : List (String × α)) {base : Dictionary α}
    (sorted : base.Sorted) :
    Sorted (pairs.foldl (fun entries (key, value) => insert key value entries) base) := by
  induction pairs generalizing base with
  | nil => exact sorted
  | cons pair rest ih => exact ih (sorted.insert pair.1 pair.2)

/-- A dictionary made of pairs is sorted. -/
theorem sorted_ofList (pairs : List (String × α)) : (ofList pairs).Sorted :=
  sorted_foldl_insert pairs List.Pairwise.nil

/-- The last entry with one of two names is the one of the later name, if there is one. -/
theorem Sorted.getLast?_filter {entries : Dictionary α} (sorted : entries.Sorted)
    {newer older : String} (order : older ≤ newer) :
    ((entries.filter fun entry => entry.1 == newer || entry.1 == older).getLast?.map (·.2)) =
      (lookup? entries newer).or (lookup? entries older) := by
  induction entries with
  | nil => rfl
  | cons entry rest ih =>
    obtain ⟨known, value⟩ := entry
    obtain ⟨first, later⟩ := List.pairwise_cons.mp sorted
    have beyond {name : String} (small : name ≤ known) : lookup? rest name = none := by
      apply lookup_eq_none_iff.mpr
      intro other member same
      exact String.not_lt.mpr small (same ▸ first other member)
    have inRest := ih later
    rw [lookup_cons, lookup_cons]
    by_cases isNewer : known = newer
    · subst isNewer
      rw [beyond (String.le_refl known), beyond order, Option.or_none, Option.map_eq_none_iff] at inRest
      simp [inRest, List.getLast?_cons]
    · by_cases isOlder : known = older
      · subst isOlder
        rw [beyond (String.le_refl known), Option.or_none] at inRest
        rw [List.filter_cons_of_pos (by simp), List.getLast?_cons, if_neg isNewer, if_pos rfl,
          ← inRest]
        cases (rest.filter _).getLast? <;> rfl
      · rw [List.filter_cons_of_neg (by simp [isNewer, isOlder]), if_neg isNewer, if_neg isOlder]
        exact inRest

/-- Each name comes once, so it does not matter from which end it is looked for. -/
theorem Sorted.lookup_reverse {entries : Dictionary α} (sorted : entries.Sorted) (name : String) :
    lookup? entries.reverse name = lookup? entries name := by
  have last := sorted.getLast?_filter (String.le_refl name)
  simp only [Bool.or_self, Option.or_self, List.getLast?_filter] at last
  exact last

/-- Each name comes once, so its value is the one that is found. -/
theorem Sorted.lookup_eq_some_iff {entries : Dictionary α} (sorted : entries.Sorted)
    {name : String} {value : α} : lookup? entries name = some value ↔ (name, value) ∈ entries := by
  induction entries with
  | nil => simp
  | cons entry rest ih =>
    obtain ⟨first, later⟩ := List.pairwise_cons.mp sorted
    rw [lookup_cons, List.mem_cons, ← ih later]
    by_cases same : entry.1 = name
    · have absent : lookup? rest name = none := lookup_eq_none_iff.mpr fun other member =>
        Ne.symm (same ▸ String.ne_of_lt (first other member))
      simp [same, absent, Prod.ext_iff, eq_comm]
    · simp [same, Prod.ext_iff, Ne.symm same]

end Offload.Dictionary
