/-!
# Lists of pairs

A list of keys with values holds, under each key, the value of the first pair
with that key.  The statements say what a pair at the front, the removal of a
key and `put` do to the values under the other keys.
-/

set_option autoImplicit false

namespace AccountKeeper.Association

variable {α β : Type} [BEq α] [LawfulBEq α] [DecidableEq α]

theorem lookup_front (key k : α) (v : β) (rest : List (α × β)) :
    ((k, v) :: rest).lookup key = if key = k then some v else rest.lookup key := by
  by_cases h : key = k
  · subst h
    simp
  · have differs : (key == k) = false := by simpa using h
    simp [List.lookup_cons, h, differs]

theorem lookup_without (key other : α) (entries : List (α × β)) :
    (entries.filter (·.1 ≠ key)).lookup other =
      if other = key then none else entries.lookup other := by
  induction entries with
  | nil => simp
  | cons entry rest ih =>
    obtain ⟨k, v⟩ := entry
    rw [List.filter_cons, lookup_front]
    by_cases h : k = key
    · subst h
      by_cases same : other = k
      · simpa [same] using ih
      · simpa [same] using ih
    · by_cases same : other = k
      · subst same
        simp [h]
      · simpa [h, lookup_front, same] using ih

/-- Puts a value under a key, in the place of the first pair with the key, else behind all pairs. -/
def put (key : α) (value : β) : List (α × β) → List (α × β)
  | [] => [(key, value)]
  | (k, v) :: rest => if k = key then (key, value) :: rest else (k, v) :: put key value rest

theorem lookup_put (key other : α) (value : β) (entries : List (α × β)) :
    (put key value entries).lookup other =
      if other = key then some value else entries.lookup other := by
  induction entries with
  | nil => exact lookup_front other key value []
  | cons entry rest ih =>
    obtain ⟨k, v⟩ := entry
    by_cases h : k = key
    · subst h
      by_cases same : other = k <;> simp [put, lookup_front, same]
    · by_cases same : other = k
      · subst same
        simp [put, h]
      · simp [put, h, lookup_front, same, ih]

end AccountKeeper.Association
