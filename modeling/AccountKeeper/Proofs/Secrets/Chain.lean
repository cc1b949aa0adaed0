import AccountKeeper.Proofs.Secrets.Calls
import AccountKeeper.Secrets.Chain

/-!
# Chains behave as one map

What can be seen of a chain of stores is, under each key, the secret of the first
store that holds the key.  Seen like this, a chain over stores that behave as maps
is a map itself, whatever the stores behind the first one hold.
-/

set_option autoImplicit false

namespace AccountKeeper

/-- A store in a chain, with what it holds. -/
structure Backend (σ : Type) where
  store : SecretStore σ
  held : σ → SecretMap

namespace Backend

variable {σ : Type} [Journal σ]

/-- The store behaves as a map on some keys and never fails there. -/
structure IsMap (takes : String → Prop) (backend : Backend σ) : Prop where
  found : ∀ key s, takes key → ((backend.store.get key).run s).1 = .ok (backend.held s key)
  kept : ∀ key s, takes key → backend.held ((backend.store.get key).run s).2 = backend.held s
  stored : ∀ key value s, takes key → ((backend.store.set key value).run s).1 = .ok ()
  changed : ∀ key value s, takes key →
    backend.held ((backend.store.set key value).run s).2 = (backend.held s).put key value
  reports : ∀ entry s, backend.held (Journal.record entry s) = backend.held s

/-- Calls on the store leave another one as it is. -/
structure Spares (takes : String → Prop) (backend other : Backend σ) : Prop where
  get : ∀ key s, takes key → other.held ((backend.store.get key).run s).2 = other.held s
  set : ∀ key value s, takes key →
    other.held ((backend.store.set key value).run s).2 = other.held s

/-- Maps that have nothing to do with one another. -/
structure Separate (takes : String → Prop) (backends : List (Backend σ)) : Prop where
  maps : ∀ backend ∈ backends, backend.IsMap takes
  apart : backends.Pairwise fun backend other =>
    Spares takes backend other ∧ Spares takes other backend

/-- The secret of the first store that holds a key. -/
def view (backends : List (Backend σ)) (s : σ) : SecretMap := fun key =>
  backends.findSome? fun backend => backend.held s key

def chain (backends : List (Backend σ)) : SecretChain σ :=
  ⟨backends.map (·.store)⟩

variable {takes : String → Prop} {backends rest : List (Backend σ)} {first : Backend σ}
  {key : String} {s : σ}

omit [Journal σ] in
theorem view_cons (first : Backend σ) (rest : List (Backend σ)) (s : σ) (key : String) :
    view (first :: rest) s key = (first.held s key).or (view rest s key) := by
  unfold view
  rw [List.findSome?_cons]
  cases first.held s key <;> rfl

omit [Journal σ] in
theorem view_congr {s s' : σ} (same : ∀ backend ∈ backends, backend.held s' key = backend.held s key) :
    view backends s' key = view backends s key := by
  induction backends with
  | nil => rfl
  | cons first rest ih =>
    rw [view_cons, view_cons, same first (List.mem_cons_self ..),
      ih fun backend member => same backend (List.mem_cons_of_mem _ member)]

omit [Journal σ] in
theorem view_eq_none {s : σ} (lacking : ∀ backend ∈ backends, backend.held s key = none) :
    view backends s key = none :=
  List.findSome?_eq_none_iff.mpr lacking

namespace Separate

theorem tail (separate : Separate takes (first :: rest)) :
    Separate takes rest :=
  ⟨fun backend member => separate.maps backend (List.mem_cons_of_mem _ member),
    (List.pairwise_cons.mp separate.apart).2⟩

theorem front (separate : Separate takes (first :: rest)) :
    first.IsMap takes :=
  separate.maps first (List.mem_cons_self ..)

theorem spares (separate : Separate takes (first :: rest))
    {backend : Backend σ} (member : backend ∈ rest) :
    Spares takes first backend ∧ Spares takes backend first :=
  (List.pairwise_cons.mp separate.apart).1 backend member

theorem kept (separate : Separate takes backends) (taken : takes key) {backend other : Backend σ}
    (member : backend ∈ backends) (member' : other ∈ backends) (s : σ) :
    other.held ((backend.store.get key).run s).2 = other.held s := by
  induction backends with
  | nil => cases member
  | cons first rest ih =>
    rcases List.mem_cons.mp member with rfl | behind
    · rcases List.mem_cons.mp member' with rfl | behind'
      · exact separate.front.kept key s taken
      · exact (separate.spares behind').1.get key s taken
    · rcases List.mem_cons.mp member' with rfl | behind'
      · exact (separate.spares behind).2.get key s taken
      · exact ih separate.tail behind behind'

theorem run_getFrom (separate : Separate takes backends) (taken : takes key)
    (asked : List (Backend σ)) (within : ∀ backend ∈ asked, backend ∈ backends) (s : σ) :
    ∃ after, (SecretChain.getFrom key (asked.map (·.store))).run s =
        (.ok (view asked s key), after) ∧
      ∀ backend ∈ backends, backend.held after = backend.held s := by
  induction asked generalizing s with
  | nil => exact ⟨s, rfl, fun _ _ => rfl⟩
  | cons first rest ih =>
    have member := within first (List.mem_cons_self ..)
    have answer := (separate.maps first member).found key s taken
    have same := fun other (member' : other ∈ backends) => separate.kept taken member member' s
    rw [List.map_cons, SecretChain.getFrom, ActionE.run_bind, view_cons]
    rcases run : (first.store.get key).run s with ⟨outcome, next⟩
    rw [run] at answer same
    dsimp only at answer same ⊢
    subst answer
    cases held : first.held s key with
    | some secret =>
      refine ⟨Journal.record _ next, rfl, fun backend member' => ?_⟩
      rw [(separate.maps backend member').reports, same backend member']
    | none =>
      obtain ⟨after, run', same'⟩ :=
        ih (fun backend behind => within backend (List.mem_cons_of_mem _ behind)) next
      have unchanged : view rest next key = view rest s key := view_congr fun backend behind =>
        congrFun (same backend (within backend (List.mem_cons_of_mem _ behind))) key
      refine ⟨after, ?_, fun backend member' => (same' backend member').trans (same backend member')⟩
      rw [unchanged] at run'
      exact run'

theorem run_get (separate : Separate takes backends) (taken : takes key) (s : σ) :
    ∃ after, ((chain backends).get key).run s = (.ok (view backends s key), after) ∧
      ∀ backend ∈ backends, backend.held after = backend.held s :=
  separate.run_getFrom taken backends (fun _ member => member) s

/-- Every store erases the key and nothing else; what all of them spare stays as it is. -/
theorem run_eraseFrom (separate : Separate takes backends) (taken : takes key) (s : σ) :
    ∃ after, (SecretChain.eraseFrom key (backends.map (·.store))).run s = (.ok (), after) ∧
      (∀ backend ∈ backends, backend.held after = (backend.held s).put key none) ∧
      ∀ other : Backend σ, (∀ backend ∈ backends, Spares takes backend other) →
        other.held after = other.held s := by
  induction backends generalizing s with
  | nil =>
    refine ⟨s, rfl, fun backend member => ?_, fun _ _ => rfl⟩
    cases member
  | cons first rest ih =>
    have answer := separate.front.stored key none s taken
    have changed := separate.front.changed key none s taken
    have spared := fun other (spares : Spares takes first other) =>
      spares.set key none s taken
    rw [List.map_cons, SecretChain.eraseFrom, ActionE.run_bind]
    rcases run : (first.store.set key none).run s with ⟨outcome, next⟩
    rw [run] at answer changed spared
    dsimp only at answer changed spared ⊢
    subst answer
    obtain ⟨after, run', erased, others⟩ := ih separate.tail next
    refine ⟨after, run', ?_, ?_⟩
    · intro backend member
      rcases List.mem_cons.mp member with rfl | behind
      · rw [others backend fun other behind => (separate.spares behind).2, changed]
      · rw [erased backend behind, spared backend (separate.spares behind).1]
    · intro other spares
      rw [others other fun backend behind => spares backend (List.mem_cons_of_mem _ behind),
        spared other (spares first (List.mem_cons_self ..))]

theorem run_erase (separate : Separate takes backends) (taken : takes key) (s : σ) :
    ∃ after, ((chain backends).set key none).run s = (.ok (), after) ∧
      ∀ backend ∈ backends, backend.held after = (backend.held s).put key none := by
  obtain ⟨after, run, erased, _⟩ := separate.run_eraseFrom taken s
  have erasing : (SecretChain.eraseFrom key (chain backends).stores).run s = (.ok (), after) := run
  refine ⟨Journal.record
    ⟨.credentials, .debug, "Erased secret " ++ key ++ " from all backends"⟩ after, ?_,
    fun backend member => ?_⟩
  · unfold SecretChain.set
    dsimp only
    rw [ActionE.run_bind, erasing]
    exact Journal.run_debug _ _ _
  · rw [(separate.maps backend member).reports, erased backend member]

theorem run_store (separate : Separate takes (first :: rest)) (taken : takes key)
    (secret : String) (s : σ) :
    ∃ entry, ((chain (first :: rest)).set key (some secret)).run s =
      (.ok (), Journal.record entry ((first.store.set key (some secret)).run s).2) := by
  have answer := separate.front.stored key (some secret) s taken
  unfold SecretChain.set SecretChain.put chain
  simp only [List.map_cons]
  rw [ActionE.run_bind]
  rcases run : (first.store.set key (some secret)).run s with ⟨outcome, next⟩
  rw [run] at answer
  dsimp only at answer ⊢
  subst answer
  exact ⟨_, Journal.run_debug _ _ _⟩

theorem stored_rest (separate : Separate takes (first :: rest)) (taken : takes key)
    (secret : String) (s : σ) (entry : JournalEntry) :
    ∀ backend ∈ rest,
      backend.held (Journal.record entry ((first.store.set key (some secret)).run s).2) =
        backend.held s := by
  intro backend behind
  rw [(separate.tail.maps backend behind).reports,
    (separate.spares behind).1.set key _ s taken]

omit [Journal σ] in
/-- One store is enough to change what is seen of them all, unless the key is erased. -/
theorem view_put {s s' : σ} (value : Option String)
    (changed : first.held s' = (first.held s).put key value)
    (others : ∀ backend ∈ rest, ∀ other ≠ key, backend.held s' other = backend.held s other)
    (erased : value = none → ∀ backend ∈ rest, backend.held s' key = none) :
    view (first :: rest) s' = (view (first :: rest) s).put key value := by
  funext other
  by_cases same : other = key
  · subst other
    rw [view_cons, changed, SecretMap.put_self, SecretMap.put_self]
    cases value with
    | none => rw [view_eq_none (erased rfl), Option.none_or]
    | some secret => rfl
  · rw [SecretMap.put_of_ne _ _ same, view_cons, view_cons, changed, SecretMap.put_of_ne _ _ same,
      view_congr fun backend behind => others backend behind other same]

/-- One call gets the answer of a map and changes what is seen as it changes the map. -/
theorem perform (separate : Separate takes (first :: rest)) (call : SecretCall)
    (taken : takes call.key) (s : σ) :
    (((chain (first :: rest)).store.perform call).run s).1 =
        ((SecretMap.store.perform call).run (view (first :: rest) s)).1 ∧
      view (first :: rest) (((chain (first :: rest)).store.perform call).run s).2 =
        ((SecretMap.store.perform call).run (view (first :: rest) s)).2 := by
  cases call with
  | get key =>
    obtain ⟨after, run, same⟩ := separate.run_get taken s
    rw [SecretMap.run_get]
    have looked : ((chain (first :: rest)).store.perform (.get key)).run s =
        (.ok (view (first :: rest) s key), after) := run
    rw [looked]
    refine ⟨rfl, ?_⟩
    funext other
    exact view_congr fun backend member => congrFun (same backend member) other
  | set key value =>
    replace taken : takes key := taken
    rw [SecretMap.run_set, SecretStore.run_perform_set]
    cases value with
    | none =>
      obtain ⟨after, run, erased⟩ := separate.run_erase taken s
      have done : ((chain (first :: rest)).store.set key none).run s = (.ok (), after) := run
      rw [done]
      refine ⟨rfl, view_put none (erased first (List.mem_cons_self ..)) ?_ ?_⟩
      · intro backend behind other different
        rw [erased backend (List.mem_cons_of_mem _ behind), SecretMap.put_of_ne _ _ different]
      · intro _ backend behind
        rw [erased backend (List.mem_cons_of_mem _ behind), SecretMap.put_self]
    | some secret =>
      obtain ⟨entry, run⟩ := separate.run_store taken secret s
      have done : ((chain (first :: rest)).store.set key (some secret)).run s = _ := run
      rw [done]
      refine ⟨rfl, view_put (some secret) ?_ ?_ (fun absent => by cases absent)⟩
      · rw [separate.front.reports, separate.front.changed key _ s taken]
      · intro backend behind other _
        rw [separate.stored_rest taken secret s entry backend behind]

end Separate

/-- A chain over separate maps is a map: its answers to any calls are those of one map, erasing
empties every store, and storing is one call on the first store. -/
theorem chain_is_map (separate : Separate takes (first :: rest)) (calls : List SecretCall)
    (taken : ∀ call ∈ calls, takes call.key) (s : σ) :
    ∃ manager, SecretChain.ofStores ((first :: rest).map (·.store)) = .ok manager ∧
      let reached := manager.store.performAll calls s
      let expected := SecretMap.store.performAll calls (view (first :: rest) s)
      reached.1 = expected.1 ∧ view (first :: rest) reached.2 = expected.2 ∧
        ∀ key, takes key →
          (∃ erased, (manager.store.set key none).run reached.2 = (.ok (), erased) ∧
            ∀ backend ∈ first :: rest, backend.held erased key = none) ∧
          ∀ secret, ∃ entry,
            let stored := Journal.record entry
              ((first.store.set key (some secret)).run reached.2).2
            (manager.store.set key (some secret)).run reached.2 = (.ok (), stored) ∧
              ∀ backend ∈ rest, backend.held stored = backend.held reached.2 := by
  refine ⟨chain (first :: rest), rfl, ?_⟩
  dsimp only
  obtain ⟨answers, seen⟩ := SecretStore.performAll_alike (chain (first :: rest)).store
    SecretMap.store (fun s held => view (first :: rest) s = held) calls
    (fun call member s held same => by
      subst same
      exact separate.perform call (taken call member) s) rfl
  refine ⟨answers, seen, fun key taken => ⟨?_, fun secret => ?_⟩⟩
  · obtain ⟨erased, run, cleared⟩ := separate.run_erase taken
      ((chain (first :: rest)).store.performAll calls s).2
    refine ⟨erased, run, fun backend member => ?_⟩
    rw [cleared backend member, SecretMap.put_self]
  · obtain ⟨entry, run⟩ := separate.run_store taken secret
      ((chain (first :: rest)).store.performAll calls s).2
    exact ⟨entry, run, separate.stored_rest taken secret _ entry⟩

end Backend

/-! ## Tables behind one another -/

/-- Any number of tables, with a journal that all of them write. -/
structure Drawers where
  tables : Nat → SecretTable := fun _ => {}
  journal : List JournalEntry := []

namespace Drawers

instance : Journal Drawers where
  record entry drawers := { drawers with journal := drawers.journal ++ [entry] }

def tablePart (index : Nat) : Part Drawers SecretTable where
  get drawers := drawers.tables index
  set table drawers :=
    { drawers with tables := fun other => if other = index then table else drawers.tables other }

def backend (index : Nat) : Backend Drawers where
  store := SecretTable.store.on (tablePart index)
  held drawers key := (drawers.tables index).get? key

variable (index : Nat) (key : String) (drawers : Drawers)

theorem run_get (valid : SecretKey.Valid key) :
    ((backend index).store.get key).run drawers =
      (.ok ((backend index).held drawers key),
        (tablePart index).set (drawers.tables index) drawers) := by
  have run : ((backend index).store.get key).run drawers =
      (((SecretTable.store.get key).run (drawers.tables index)).1,
        (tablePart index).set ((SecretTable.store.get key).run (drawers.tables index)).2 drawers) :=
    rfl
  rw [run, SecretTable.run_get, SecretKey.require_of_valid valid]
  rfl

theorem run_set (value : Option String) (valid : SecretKey.Valid key) :
    ((backend index).store.set key value).run drawers =
      (.ok (), (tablePart index).set ((drawers.tables index).put key value) drawers) := by
  have run : ((backend index).store.set key value).run drawers =
      (((SecretTable.store.set key value).run (drawers.tables index)).1,
        (tablePart index).set ((SecretTable.store.set key value).run
          (drawers.tables index)).2 drawers) :=
    rfl
  rw [run, SecretTable.run_set, SecretKey.require_of_valid valid]

theorem held_self (table : SecretTable) :
    (backend index).held ((tablePart index).set table drawers) = table.get? := by
  funext key
  show (if index = index then table else _).get? key = _
  rw [if_pos rfl]

theorem held_other {other : Nat} (different : other ≠ index) (table : SecretTable) :
    (backend other).held ((tablePart index).set table drawers) =
      (backend other).held drawers := by
  funext key
  show (if other = index then table else _).get? key = _
  rw [if_neg different]
  rfl

theorem isMap : (backend index).IsMap SecretKey.Valid where
  found key s valid := by rw [run_get index key s valid]
  kept key s valid := by rw [run_get index key s valid, held_self]; rfl
  stored key value s valid := by rw [run_set index key s value valid]
  changed key value s valid := by
    rw [run_set index key s value valid, held_self]
    funext other
    exact SecretTable.get?_put _ key other value
  reports _ _ := rfl

theorem spares {other : Nat} (different : other ≠ index) :
    Backend.Spares SecretKey.Valid (backend index) (backend other) where
  get key s valid := by rw [run_get index key s valid, held_other index s different]
  set key value s valid := by rw [run_set index key s value valid, held_other index s different]

theorem separate {order : List Nat} (distinct : order.Nodup) :
    Backend.Separate SecretKey.Valid (order.map backend) where
  maps := by
    intro store member
    obtain ⟨index, _, rfl⟩ := List.mem_map.mp member
    exact isMap index
  apart := by
    rw [List.pairwise_map]
    exact distinct.imp fun different => ⟨spares _ (Ne.symm different), spares _ different⟩

end Drawers

namespace Backend

/-- A new secret hides an old one in the table behind, and erasing ends both. -/
theorem chain_is_map_for_a_hidden_secret :
    SecretKey.Valid "token" ∧
      ∃ manager, SecretChain.ofStores ([Drawers.backend 0, Drawers.backend 1].map (·.store)) =
          .ok manager ∧
        (manager.store.performAll
          [.get "token", .set "token" (some "new"), .get "token", .set "token" none, .get "token"]
          { tables := fun index => if index = 1 then ⟨[("token", "old")], 0⟩ else {} }).1 =
          [.ok (some "old"), .ok none, .ok (some "new"), .ok none, .ok none] := by
  have valid : SecretKey.Valid "token" := by decide
  have distinct : [0, 1].Nodup := by decide
  refine ⟨valid, ?_⟩
  obtain ⟨manager, built, answers, _⟩ := chain_is_map (Drawers.separate distinct)
    [.get "token", .set "token" (some "new"), .get "token", .set "token" none, .get "token"]
    (by simpa [SecretCall.key] using valid)
    { tables := fun index => if index = 1 then ⟨[("token", "old")], 0⟩ else {} }
  exact ⟨manager, built, answers.trans (by rfl)⟩

end Backend

end AccountKeeper
