/-!
# Bisection

Finding the interval that holds a number among disjoint intervals in increasing
order.
-/

set_option autoImplicit false

namespace AccountKeeper.Text

/-- The item at one of the positions `low ≤ i < high` whose interval holds `code`; `bounds` gives
the two ends of an interval, which both belong to it. -/
def bisect {α : Type} (bounds : α → Nat × Nat) (items : Array α) (code low high : Nat) : Option α :=
  if _ : low < high then
    let middle := (low + high) / 2
    match items[middle]? with
    | none => none
    | some item =>
      if code < (bounds item).1 then bisect bounds items code low middle
      else if (bounds item).2 < code then bisect bounds items code (middle + 1) high
      else some item
  else
    none
termination_by high - low

def interval? {α : Type} (bounds : α → Nat × Nat) (items : Array α) (code : Nat) : Option α :=
  bisect bounds items code 0 items.size

theorem bounds_of_bisect {α : Type} (bounds : α → Nat × Nat) (items : Array α)
    (code low high : Nat) (item : α) (found : bisect bounds items code low high = some item) :
    (bounds item).1 ≤ code ∧ code ≤ (bounds item).2 := by
  fun_induction bisect bounds items code low high with
  | case1 => cases found
  | case2 _ _ _ _ _ _ _ ih => exact ih found
  | case3 _ _ _ _ _ _ _ _ ih => exact ih found
  | case4 _ _ _ _ _ _ above below =>
    cases found
    exact ⟨by omega, by omega⟩
  | case5 => cases found

theorem mem_of_bisect {α : Type} (bounds : α → Nat × Nat) (items : Array α)
    (code low high : Nat) (item : α) (found : bisect bounds items code low high = some item) :
    item ∈ items := by
  fun_induction bisect bounds items code low high with
  | case1 => cases found
  | case2 _ _ _ _ _ _ _ ih => exact ih found
  | case3 _ _ _ _ _ _ _ _ ih => exact ih found
  | case4 _ _ _ _ _ there =>
    cases found
    exact Array.mem_of_getElem? there
  | case5 => cases found

end AccountKeeper.Text
