/-! Dictionaries that remember the order in which their keys were first used. -/

namespace Standoff

abbrev Dictionary (κ α : Type) := List (κ × α)

namespace Dictionary

variable {κ α : Type}

def keys (dictionary : Dictionary κ α) : List κ := dictionary.map (·.1)

variable [DecidableEq κ]

def get? (dictionary : Dictionary κ α) (key : κ) : Option α := dictionary.lookup key

/-- Put a value in the place of the one under its key, or at the end. -/
def set (key : κ) (value : α) : Dictionary κ α → Dictionary κ α
  | [] => [(key, value)]
  | (other, old) :: rest =>
      if other = key then (key, value) :: rest else (other, old) :: set key value rest

def update (dictionary added : Dictionary κ α) : Dictionary κ α :=
  added.foldl (fun dictionary entry => dictionary.set entry.1 entry.2) dictionary

def erase (key : κ) (dictionary : Dictionary κ α) : Dictionary κ α :=
  dictionary.filter fun entry => entry.1 ≠ key

example : set 1 "one" (set 2 "two" [(1, "first")]) = [(1, "one"), (2, "two")] := by decide

@[simp] theorem get?_nil (key : κ) : get? ([] : Dictionary κ α) key = none := rfl

theorem get?_cons (other key : κ) (value : α) (rest : Dictionary κ α) :
    get? ((other, value) :: rest) key =
      if other = key then some value else get? rest key := by
  by_cases equal : other = key
  · simp [get?, equal]
  · simp [get?, List.lookup_cons, equal, beq_false_of_ne fun same => equal (Eq.symm same)]

theorem get?_append (first second : Dictionary κ α) (key : κ) :
    get? (first ++ second) key = (first.get? key).or (second.get? key) := by
  induction first with
  | nil => rfl
  | cons entry rest induction =>
      rw [List.cons_append, get?_cons, get?_cons, induction]
      split <;> rfl

theorem get?_eq_none {dictionary : Dictionary κ α} {key : κ} (absent : key ∉ dictionary.keys) :
    dictionary.get? key = none := by
  rw [get?, List.lookup_eq_none_iff]
  intro entry member
  exact bne_iff_ne.mpr fun equal => absent (List.mem_map.mpr ⟨entry, member, Eq.symm equal⟩)

theorem mem_of_get? {dictionary : Dictionary κ α} {key : κ} {value : α}
    (found : dictionary.get? key = some value) : (key, value) ∈ dictionary := by
  rcases List.lookup_eq_some_iff.mp found with ⟨front, back, rfl, _⟩
  exact List.mem_append_right front List.mem_cons_self

/-- The value under a key that is used once. -/
theorem get?_eq_some_iff {dictionary : Dictionary κ α} (distinct : dictionary.keys.Nodup)
    {key : κ} {value : α} : dictionary.get? key = some value ↔ (key, value) ∈ dictionary := by
  refine ⟨mem_of_get?, fun member => ?_⟩
  induction dictionary with
  | nil => cases member
  | cons entry rest induction =>
      obtain ⟨first, old⟩ := entry
      rw [keys, List.map_cons, List.nodup_cons] at distinct
      rw [get?_cons]
      rcases List.mem_cons.mp member with equal | later
      · cases equal
        rw [if_pos rfl]
      · have different : first ≠ key := fun equal =>
          distinct.1 (List.mem_map.mpr ⟨(key, value), later, Eq.symm equal⟩)
        rw [if_neg different, induction distinct.2 later]

theorem get?_map {β : Type} (transform : α → β) (dictionary : Dictionary κ α) (key : κ) :
    get? (dictionary.map fun entry => (entry.1, transform entry.2)) key =
      (dictionary.get? key).map transform := by
  induction dictionary with
  | nil => rfl
  | cons entry rest induction =>
      rw [List.map_cons, get?_cons, get?_cons, induction]
      split <;> rfl

@[simp] theorem get?_set_self (dictionary : Dictionary κ α) (key : κ) (value : α) :
    (dictionary.set key value).get? key = some value := by
  induction dictionary with
  | nil => simp [set, get?_cons]
  | cons entry rest induction =>
      obtain ⟨first, old⟩ := entry
      by_cases equal : first = key <;> simp [set, equal, get?_cons, induction]

theorem get?_set_of_ne (dictionary : Dictionary κ α) {key other : κ} (value : α)
    (different : other ≠ key) :
    (dictionary.set key value).get? other = dictionary.get? other := by
  induction dictionary with
  | nil => simp [set, get?_cons, different.symm]
  | cons entry rest induction =>
      obtain ⟨first, old⟩ := entry
      by_cases equal : first = key
      · subst equal
        simp [set, get?_cons, different.symm]
      · simp [set, equal, get?_cons, induction]

theorem get?_update (dictionary : Dictionary κ α) {added : Dictionary κ α}
    (distinct : added.keys.Nodup) (key : κ) :
    (dictionary.update added).get? key = (added.get? key).or (dictionary.get? key) := by
  induction added generalizing dictionary with
  | nil => rfl
  | cons entry rest induction =>
      obtain ⟨first, value⟩ := entry
      rw [keys, List.map_cons, List.nodup_cons] at distinct
      have later : (dictionary.update ((first, value) :: rest)).get? key = _ :=
        induction (dictionary.set first value) distinct.2
      rw [later, get?_cons]
      by_cases equal : first = key
      · subst equal
        have absent : get? rest first = none := get?_eq_none distinct.1
        rw [absent, get?_set_self, if_pos rfl, Option.none_or, Option.some_or]
      · rw [get?_set_of_ne _ _ (Ne.symm equal), if_neg equal]

@[simp] theorem get?_erase_self (dictionary : Dictionary κ α) (key : κ) :
    (dictionary.erase key).get? key = none := by
  induction dictionary with
  | nil => rfl
  | cons entry rest induction =>
      obtain ⟨first, value⟩ := entry
      by_cases equal : first = key
      · simpa [erase, equal] using induction
      · simpa [erase, equal, get?_cons] using induction

theorem get?_erase_of_ne (dictionary : Dictionary κ α) {key other : κ}
    (different : other ≠ key) :
    (dictionary.erase key).get? other = dictionary.get? other := by
  induction dictionary with
  | nil => rfl
  | cons entry rest induction =>
      obtain ⟨first, value⟩ := entry
      by_cases equal : first = key
      · subst equal
        simpa [erase, get?_cons, different.symm] using induction
      · have kept : erase key ((first, value) :: rest) = (first, value) :: erase key rest := by
          simp [erase, equal]
        rw [kept, get?_cons, get?_cons, induction]

end Dictionary

end Standoff
