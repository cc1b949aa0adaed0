import AccountKeeper.Proofs.Action
import AccountKeeper.Secrets.Store

/-!
# Calls on stores of secrets

Runs of calls on a store with the answers they get.  `SecretMap` is the store
that everybody has in mind: a map from keys to secrets that refuses nothing.
-/

set_option autoImplicit false

namespace AccountKeeper

inductive SecretCall where
  | get (key : String)
  | set (key : String) (value : Option String)
  deriving DecidableEq, Repr

def SecretCall.key : SecretCall → String
  | get key => key
  | set key _ => key

namespace SecretStore

variable {σ τ : Type}

/-- A call on a store; storing and erasing answer with nothing. -/
def perform (store : SecretStore σ) : SecretCall → Action σ (Option String)
  | .get key => store.get key
  | .set key value => do
    store.set key value
    return none

def performAll (store : SecretStore σ) :
    List SecretCall → σ → List (Except Failure (Option String)) × σ
  | [], s => ([], s)
  | call :: calls, s =>
    let (answer, next) := (store.perform call).run s
    let (answers, after) := store.performAll calls next
    (answer :: answers, after)

theorem run_perform_set (store : SecretStore σ) (key : String) (value : Option String) (s : σ) :
    (store.perform (.set key value)).run s =
      (((store.set key value).run s).1.map fun _ => none, ((store.set key value).run s).2) := by
  unfold perform
  rw [ActionE.run_bind]
  rcases (store.set key value).run s with ⟨outcome, s'⟩
  cases outcome <;> rfl

/-- Stores whose states stay related answer all calls alike. -/
theorem performAll_alike (store : SecretStore σ) (other : SecretStore τ) (related : σ → τ → Prop)
    (calls : List SecretCall)
    (step : ∀ call ∈ calls, ∀ s t, related s t →
      ((store.perform call).run s).1 = ((other.perform call).run t).1 ∧
        related ((store.perform call).run s).2 ((other.perform call).run t).2)
    {s : σ} {t : τ} (start : related s t) :
    (store.performAll calls s).1 = (other.performAll calls t).1 ∧
      related (store.performAll calls s).2 (other.performAll calls t).2 := by
  induction calls generalizing s t with
  | nil => exact ⟨rfl, start⟩
  | cons call calls ih =>
    obtain ⟨answer, next⟩ := step call (List.mem_cons_self ..) s t start
    obtain ⟨answers, after⟩ := ih
      (fun later member => step later (List.mem_cons_of_mem _ member)) next
    refine ⟨?_, after⟩
    unfold performAll
    dsimp only
    rw [answer, answers]

end SecretStore

/-- The secrets under all keys. -/
abbrev SecretMap := String → Option String

namespace SecretMap

def put (held : SecretMap) (key : String) (value : Option String) : SecretMap := fun other =>
  if other = key then value else held other

theorem put_self (held : SecretMap) (key : String) (value : Option String) :
    held.put key value key = value :=
  if_pos rfl

theorem put_of_ne (held : SecretMap) {key other : String} (value : Option String)
    (different : other ≠ key) : held.put key value other = held other :=
  if_neg different

def store : SecretStore SecretMap where
  get key := return (← get) key
  set key value := modify (·.put key value)
  name := "map"

theorem run_get (held : SecretMap) (key : String) :
    (store.perform (.get key)).run held = (.ok (held key), held) := rfl

theorem run_set (held : SecretMap) (key : String) (value : Option String) :
    (store.perform (.set key value)).run held = (.ok none, held.put key value) := rfl

theorem performAll_ok (calls : List SecretCall) (held : SecretMap) :
    ∀ answer ∈ (store.performAll calls held).1, ∃ found, answer = .ok found := by
  induction calls generalizing held with
  | nil => exact nofun
  | cons call calls ih =>
    intro answer member
    rcases List.mem_cons.mp member with rfl | later
    · cases call <;> exact ⟨_, rfl⟩
    · exact ih _ answer later

end SecretMap

namespace SecretKey

variable {key : String}

theorem require_of_valid (valid : Valid key) : require key = .ok () := by
  unfold Valid at valid
  unfold require
  cases checked : check key with
  | ok _ => rfl
  | error fault =>
    rw [checked] at valid
    cases valid

theorem require_of_invalid (invalid : ¬Valid key) : ∃ failure, require key = .error failure := by
  unfold Valid at invalid
  unfold require
  cases checked : check key with
  | ok _ => exact absurd (by rw [checked]; rfl) invalid
  | error fault => exact ⟨_, rfl⟩

theorem valid_iff :
    Valid key ↔ key.toList ≠ [] ∧ ¬['.', '.'] <:+: key.toList ∧
      ∀ c ∈ key.toList, isKeyChar c = true := by
  unfold Valid check
  rw [← Text.hasInfix_iff]
  dsimp only
  split
  · rename_i none
    simp [none, Except.isOk, Except.toBool]
  · rename_i nonempty
    split
    · rename_i bad
      simp only [Except.isOk, Except.toBool, Bool.false_eq_true, false_iff, not_and]
      intro _ noDots all
      rcases Bool.or_eq_true_iff.mp bad with dots | other
      · exact noDots dots
      · simp only [Bool.not_eq_true', List.all_eq_false] at other
        obtain ⟨c, member, outside⟩ := other
        exact outside (all c member)
    · rename_i good
      simp only [Bool.or_eq_true, Bool.not_eq_true', not_or, Bool.not_eq_false] at good
      simpa [Except.isOk, Except.toBool, nonempty, good.1] using List.all_eq_true.mp good.2

end SecretKey

namespace SecretTable

variable (table : SecretTable) (key : String)

theorem run_get :
    (store.get key).run table = ((SecretKey.require key).map fun _ => table.get? key, table) := by
  unfold store
  dsimp only
  rw [ActionE.run_bind, ActionE.run_ofExcept]
  cases SecretKey.require key <;> rfl

theorem run_set (value : Option String) :
    (store.set key value).run table =
      match SecretKey.require key with
      | .ok () => (.ok (), table.put key value)
      | .error failure => (.error failure, table) := by
  unfold store
  dsimp only
  rw [ActionE.run_bind, ActionE.run_ofExcept]
  cases SecretKey.require key <;> rfl

end SecretTable

end AccountKeeper
