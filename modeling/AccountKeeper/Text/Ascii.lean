/-!
# Texts up to the case of ASCII letters

Two texts agree up to ASCII case when they have the same length and differ
only in the case of letters `A` to `Z`; every other character is compared
exactly.
-/

set_option autoImplicit false

namespace AccountKeeper.Text

def sameAscii (a b : List Char) : Bool :=
  a.map Char.toLower = b.map Char.toLower

def sameIgnoringCase (a b : String) : Bool :=
  sameAscii a.toList b.toList

/-- The rest of `text` after `head`, where `head` is matched up to ASCII case. -/
def dropHeadIgnoringCase (head text : List Char) : Option (List Char) :=
  if sameAscii (text.take head.length) head then some (text.drop head.length) else none

theorem dropHeadIgnoringCase_eq_some (head text rest : List Char) :
    dropHeadIgnoringCase head text = some rest ↔
      ∃ lead, text = lead ++ rest ∧ lead.map Char.toLower = head.map Char.toLower := by
  unfold dropHeadIgnoringCase sameAscii
  constructor
  · intro dropped
    split at dropped
    · rename_i same
      cases dropped
      exact ⟨text.take head.length, (List.take_append_drop _ _).symm, of_decide_eq_true same⟩
    · cases dropped
  · rintro ⟨lead, rfl, same⟩
    have length : lead.length = head.length := by
      simpa using congrArg List.length same
    rw [← length, List.take_left, List.drop_left, if_pos (decide_eq_true same)]

theorem toLower_of_not_capital (c : Char) (other : ¬(c.val ≥ 'A'.val ∧ c.val ≤ 'Z'.val)) :
    c.toLower = c :=
  dif_neg other

theorem toNat_toLower (c : Char) (capital : c.val ≥ 'A'.val ∧ c.val ≤ 'Z'.val) :
    c.toLower.toNat = c.toNat + 32 := by
  have high : c.val.toNat ≤ 90 := capital.2
  have shift : ('a'.val - 'A'.val).toNat = 32 := rfl
  have shifted : c.toLower.val = c.val + ('a'.val - 'A'.val) := congrArg Char.val (dif_pos capital)
  change c.toLower.val.toNat = c.val.toNat + 32
  rw [shifted, UInt32.toNat_add]
  omega

/-- What is no small letter is the lower case of nothing but itself. -/
theorem eq_of_toLower (c d : Char) (lower : c.toLower = d)
    (outside : d.toNat < 'a'.toNat ∨ 'z'.toNat < d.toNat) : c = d := by
  by_cases capital : c.val ≥ 'A'.val ∧ c.val ≤ 'Z'.val
  · have small := toNat_toLower c capital
    rw [lower] at small
    have low : 65 ≤ c.toNat := capital.1
    have high : c.toNat ≤ 90 := capital.2
    have first : 'a'.toNat = 97 := rfl
    have last : 'z'.toNat = 122 := rfl
    omega
  · rw [← lower]
    exact (toLower_of_not_capital c capital).symm

theorem eq_of_map_toLower (text target : List Char) (lower : text.map Char.toLower = target)
    (outside : ∀ d ∈ target, d.toNat < 'a'.toNat ∨ 'z'.toNat < d.toNat) : text = target := by
  induction text generalizing target with
  | nil => exact lower
  | cons c rest ih =>
    subst lower
    rw [List.map_cons]
    congr 1
    · exact eq_of_toLower c c.toLower rfl (outside _ List.mem_cons_self)
    · exact ih _ rfl fun d member => outside d (List.mem_cons_of_mem _ member)

def isWordChar (c : Char) : Bool :=
  c.isAlphanum || c = '-' || c = '_'

end AccountKeeper.Text
