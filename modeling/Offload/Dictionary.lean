/-! # Dictionaries

Finite maps from names to values, listed in the order of the names. Names are compared by code
point, which is also the order of their UTF-8 bytes. Insertion replaces, so the last of several
values given for a name is the one that is kept. `lookup_insert` and `lookup_erase` describe the two
operations for every list, sorted or not; `Sorted.insert` keeps the order.
-/

namespace Offload

/-- Names with their values, in the order of the names. -/
abbrev Dictionary (α : Type) := List (String × α)

namespace Dictionary

variable {α : Type}

/-- The value of a name. -/
def lookup? (entries : Dictionary α) (name : String) : Option α :=
  (entries.find? (·.1 == name)).map (·.2)

/-- The entries with this value for this name. -/
def insert (name : String) (value : α) : Dictionary α → Dictionary α
  | [] => [(name, value)]
  | (known, old) :: rest =>
    if name = known then (name, value) :: rest
    else if name < known then (name, value) :: (known, old) :: rest
    else (known, old) :: insert name value rest

/-- The entries without this name. -/
def erase (entries : Dictionary α) (name : String) : Dictionary α :=
  entries.filter (·.1 != name)

/-- The dictionary of a list of pairs; the last value of a name is kept. -/
def ofList (pairs : List (String × α)) : Dictionary α :=
  pairs.foldl (fun entries (name, value) => insert name value entries) []

@[simp] theorem lookup_nil (name : String) : lookup? ([] : Dictionary α) name = none := rfl

theorem lookup_cons (entry : String × α) (rest : Dictionary α) (name : String) :
    lookup? (entry :: rest) name = if entry.1 = name then some entry.2 else lookup? rest name := by
  unfold lookup?
  by_cases same : entry.1 = name <;> simp [same]

theorem lookup_insert (entries : Dictionary α) (name other : String) (value : α) :
    lookup? (insert name value entries) other =
      if name = other then some value else lookup? entries other := by
  induction entries with
  | nil => simp [insert, lookup_cons]
  | cons entry rest ih =>
    obtain ⟨known, old⟩ := entry
    unfold insert
    by_cases here : name = known
    · subst here
      by_cases same : name = other <;> simp [lookup_cons, same]
    · by_cases before : name < known
      · simp [here, before, lookup_cons]
      · simp only [here, before, if_false, lookup_cons, ih]
        by_cases same : known = other
        · subst same
          simp [here]
        · simp [same]

theorem lookup_erase (entries : Dictionary α) (name other : String) :
    lookup? (erase entries name) other =
      if other = name then none else lookup? entries other := by
  induction entries with
  | nil => simp [erase]
  | cons entry rest ih =>
    obtain ⟨known, old⟩ := entry
    unfold erase at ih ⊢
    by_cases gone : known = name
    · subst gone
      rw [List.filter_cons_of_neg (by simp), ih, lookup_cons]
      by_cases same : other = known
      · simp [same]
      · simp [same, Ne.symm same]
    · rw [List.filter_cons_of_pos (by simpa using gone), lookup_cons, ih, lookup_cons]
      by_cases same : known = other
      · subst same
        simp [gone]
      · simp [same]

/-- Every name comes before all later ones. -/
def Sorted (entries : Dictionary α) : Prop :=
  entries.Pairwise (·.1 < ·.1)

theorem mem_insert {entries : Dictionary α} {name : String} {value : α} {entry : String × α}
    (member : entry ∈ insert name value entries) : entry = (name, value) ∨ entry ∈ entries := by
  induction entries with
  | nil => simpa [insert] using member
  | cons head rest ih =>
    obtain ⟨known, old⟩ := head
    unfold insert at member
    split at member
    · rcases List.mem_cons.mp member with rfl | later
      · exact .inl rfl
      · exact .inr (List.mem_cons_of_mem _ later)
    · split at member
      · exact (List.mem_cons.mp member).imp_right id
      · rcases List.mem_cons.mp member with rfl | later
        · exact .inr (List.mem_cons_self ..)
        · exact (ih later).imp_right (List.mem_cons_of_mem _)

theorem Sorted.insert {entries : Dictionary α} (sorted : entries.Sorted) (name : String)
    (value : α) : (insert name value entries).Sorted := by
  unfold Sorted at sorted ⊢
  induction entries with
  | nil => simp [Dictionary.insert]
  | cons entry rest ih =>
    obtain ⟨known, old⟩ := entry
    obtain ⟨first, later⟩ := List.pairwise_cons.mp sorted
    unfold Dictionary.insert
    split
    · rename_i same
      subst same
      exact List.pairwise_cons.mpr ⟨first, later⟩
    · rename_i differs
      split
      · rename_i before
        refine List.pairwise_cons.mpr ⟨fun other member => ?_, sorted⟩
        rcases List.mem_cons.mp member with rfl | inRest
        · exact before
        · exact String.lt_trans before (first other inRest)
      · rename_i notBefore
        refine List.pairwise_cons.mpr ⟨fun other member => ?_, ih later⟩
        rcases mem_insert member with rfl | inRest
        · exact Std.lt_of_le_of_ne (String.not_lt.mp notBefore) (Ne.symm differs)
        · exact first other inRest

end Dictionary

end Offload
