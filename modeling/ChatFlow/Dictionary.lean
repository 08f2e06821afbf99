/-
This file holds dictionaries: lists of keys and values in ascending order of the keys.

`insert` puts a key in its place or replaces its value, so that whatever is built with it has
every key once and in order, and two dictionaries with the same entries are the same list.
Looking up a key takes the first entry for it and needs no order.
-/

namespace ChatFlow

/-- Keys with a value each. -/
abbrev Dictionary (α : Type) := List (String × α)

namespace Dictionary

variable {α β : Type}

/-- The keys ascend, so none occurs twice. -/
def Ascending (entries : Dictionary α) : Prop :=
  entries.Pairwise fun earlier later => earlier.1 < later.1

/-- The value of a key. -/
def get? : Dictionary α → String → Option α
  | [], _ => none
  | (known, value) :: rest, key => if known = key then some value else get? rest key

/-- Sets the value of a key. -/
def insert : Dictionary α → String → α → Dictionary α
  | [], key, value => [(key, value)]
  | (known, old) :: rest, key, value =>
    if known = key then (key, value) :: rest
    else if key < known then (key, value) :: (known, old) :: rest
    else (known, old) :: insert rest key value

/-- There is a value for the key. -/
def has (entries : Dictionary α) (key : String) : Bool :=
  (entries.get? key).isSome

/-- The keys, in order. -/
def keys (entries : Dictionary α) : List String :=
  entries.map (·.1)

/-- Sets the values of further keys, one after another. -/
def insertAll (entries : Dictionary α) (further : List (String × α)) : Dictionary α :=
  further.foldl (fun entries entry => entries.insert entry.1 entry.2) entries

/-- The dictionary of some entries, where the last entry for a key counts. -/
def ofList (entries : List (String × α)) : Dictionary α :=
  insertAll [] entries

/-- Every value changed by a function. -/
def mapValues (change : α → β) (entries : Dictionary α) : Dictionary β :=
  entries.map fun (key, value) => (key, change value)

/-! ### What insertion does to look-up -/

theorem get?_insert_self (entries : Dictionary α) (key : String) (value : α) :
    (entries.insert key value).get? key = some value := by
  induction entries with
  | nil => simp [insert, get?]
  | cons entry rest inductionHypothesis =>
    simp only [insert]
    split
    · simp [get?]
    · split
      · simp [get?]
      · rename_i different _
        simp [get?, different, inductionHypothesis]

theorem get?_insert_of_ne (entries : Dictionary α) {key other : String} (value : α)
    (different : key ≠ other) : (entries.insert key value).get? other = entries.get? other := by
  induction entries with
  | nil => simp [insert, get?, different]
  | cons entry rest inductionHypothesis =>
    simp only [insert]
    split
    · rename_i found
      simp [get?, different, found]
    · split
      · simp [get?, different]
      · simp [get?, inductionHypothesis]

theorem get?_insert (entries : Dictionary α) (key other : String) (value : α) :
    (entries.insert key value).get? other =
      if key = other then some value else entries.get? other := by
  by_cases same : key = other
  · rw [if_pos same, ← same, get?_insert_self]
  · rw [if_neg same, get?_insert_of_ne entries value same]

/-! ### Keys and look-up -/

/-- The keys of a dictionary are those that have a value. -/
theorem mem_keys_iff {entries : Dictionary α} {key : String} :
    key ∈ entries.keys ↔ ∃ value, entries.get? key = some value := by
  induction entries with
  | nil => simp [keys, get?]
  | cons entry rest inductionHypothesis =>
    rw [keys] at inductionHypothesis
    rw [keys, List.map_cons, List.mem_cons, inductionHypothesis, get?]
    by_cases same : entry.1 = key
    · simp [same]
    · rw [if_neg same, or_iff_right (Ne.symm same)]

/-! ### What a change of the values does to look-up -/

theorem get?_mapValues (change : α → β) (entries : Dictionary α) (key : String) :
    (entries.mapValues change).get? key = (entries.get? key).map change := by
  induction entries with
  | nil => rfl
  | cons entry rest inductionHypothesis =>
    rw [mapValues, List.map_cons, get?, get?]
    split
    · rfl
    · exact inductionHypothesis

end Dictionary

end ChatFlow
