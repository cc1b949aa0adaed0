import AccountKeeper.Proofs.Secrets.Chain
import AccountKeeper.Secrets.Setup

/-!
# Erasing a key from a chain

A chain erases a key from one store after the other and stops at the first one
that fails.  The stores in front of that one have lost the key then, and all
others hold what they held; `erasing_reaches_all_iff` says when this is enough.
-/

set_option autoImplicit false

namespace AccountKeeper

namespace SecretChain

variable {σ : Type} [Journal σ]

theorem run_set_none (chain : SecretChain σ) (key : String) (s : σ) :
    (chain.set key none).run s =
      match (eraseFrom key chain.stores).run s with
      | (.ok _, after) => (.ok (), Journal.record
          ⟨.credentials, .debug, "Erased secret " ++ key ++ " from all backends"⟩ after)
      | (.error failure, after) => (.error failure, after) := by
  unfold SecretChain.set
  dsimp only
  rw [ActionE.run_bind]
  rcases (eraseFrom key chain.stores).run s with ⟨outcome, after⟩
  cases outcome <;> rfl

end SecretChain

namespace Backend

variable {σ : Type}

/-- What erasing a key from this store alone answers. -/
def eraseAnswer (backend : Backend σ) (key : String) (s : σ) : Except Failure Unit :=
  ((backend.store.set key none).run s).1

/-- The state after erasing a key from this store alone. -/
def erased (backend : Backend σ) (key : String) (s : σ) : σ :=
  ((backend.store.set key none).run s).2

def erases (backend : Backend σ) (key : String) (s : σ) : Bool :=
  (backend.eraseAnswer key s).isOk

/-- The stores in front of the first one that cannot erase a key. -/
def reached (backends : List (Backend σ)) (key : String) (s : σ) : List (Backend σ) :=
  backends.takeWhile (·.erases key s)

/-- The stores from the first one on that cannot erase a key. -/
def missed (backends : List (Backend σ)) (key : String) (s : σ) : List (Backend σ) :=
  backends.dropWhile (·.erases key s)

/-- Erasing a key from one store changes neither what another one holds nor what erasing the key
from that one answers. -/
structure Leaves (key : String) (backend other : Backend σ) : Prop where
  held : ∀ s, other.held (backend.erased key s) = other.held s
  answer : ∀ s, other.eraseAnswer key (backend.erased key s) = other.eraseAnswer key s

/-- Stores that have nothing to do with one another when a key is erased: each of them loses the
key, or fails and keeps everything. -/
structure Independent [Journal σ] (key : String) (backends : List (Backend σ)) : Prop where
  worked : ∀ backend ∈ backends, ∀ s, backend.erases key s = true →
    backend.held (backend.erased key s) = (backend.held s).put key none
  failed : ∀ backend ∈ backends, ∀ s, backend.erases key s = false →
    backend.held (backend.erased key s) = backend.held s
  apart : backends.Pairwise fun backend other =>
    Leaves key backend other ∧ Leaves key other backend
  reports : ∀ backend ∈ backends, ∀ entry s,
    backend.held (Journal.record entry s) = backend.held s

section Alone

variable {key : String} {s : σ} {backend : Backend σ} {backends : List (Backend σ)}

theorem erases_iff : backend.erases key s = true ↔ backend.eraseAnswer key s = .ok () := by
  unfold erases
  cases backend.eraseAnswer key s with
  | ok _ => exact iff_of_true rfl rfl
  | error failure => exact iff_of_false nofun nofun

theorem not_erases_iff :
    backend.erases key s = false ↔ ∃ failure, backend.eraseAnswer key s = .error failure := by
  unfold erases
  cases backend.eraseAnswer key s with
  | ok _ => exact iff_of_false nofun nofun
  | error failure => exact iff_of_true rfl ⟨failure, rfl⟩

theorem Leaves.erases {other : Backend σ} (leaves : Leaves key backend other) (s : σ) :
    other.erases key (backend.erased key s) = other.erases key s := by
  unfold Backend.erases
  rw [leaves.answer]

theorem run_erase_alone (backend : Backend σ) (key : String) (s : σ) :
    (backend.store.set key none).run s = (backend.eraseAnswer key s, backend.erased key s) := rfl

theorem reached_append_missed (backends : List (Backend σ)) (key : String) (s : σ) :
    reached backends key s ++ missed backends key s = backends :=
  List.takeWhile_append_dropWhile

theorem erases_of_reached (member : backend ∈ reached backends key s) :
    backend.erases key s = true :=
  List.all_eq_true.mp List.all_takeWhile backend member

theorem not_erases_of_missed (first : backend ∈ (missed backends key s).head?) :
    backend.erases key s = false := by
  have stops := List.head?_dropWhile_not (fun other : Backend σ => other.erases key s) backends
  rw [show (backends.dropWhile fun other => other.erases key s).head? = some backend from first]
    at stops
  exact stops

end Alone

variable [Journal σ]

namespace Independent

variable {key : String} {s : σ} {backends front behind : List (Backend σ)} {first : Backend σ}

theorem tail (independent : Independent key (first :: behind)) : Independent key behind where
  worked backend member := independent.worked backend (List.mem_cons_of_mem _ member)
  failed backend member := independent.failed backend (List.mem_cons_of_mem _ member)
  apart := (List.pairwise_cons.mp independent.apart).2
  reports backend member := independent.reports backend (List.mem_cons_of_mem _ member)

theorem leaves (independent : Independent key (first :: behind)) {backend : Backend σ}
    (member : backend ∈ behind) : Leaves key first backend ∧ Leaves key backend first :=
  (List.pairwise_cons.mp independent.apart).1 backend member

/-- The stores in front lose the key, and erasing goes on behind them; what all of them leave alone
stays as it is. -/
theorem run_front (independent : Independent key (front ++ behind)) (s : σ)
    (works : ∀ backend ∈ front, backend.erases key s = true) :
    ∃ after, (SecretChain.eraseFrom key ((front ++ behind).map (·.store))).run s =
        (SecretChain.eraseFrom key (behind.map (·.store))).run after ∧
      (∀ backend ∈ front, backend.held after = (backend.held s).put key none) ∧
      ∀ other : Backend σ, (∀ backend ∈ front, Leaves key backend other) →
        other.held after = other.held s ∧
          other.eraseAnswer key after = other.eraseAnswer key s := by
  induction front generalizing s with
  | nil =>
    refine ⟨s, rfl, fun backend member => ?_, fun _ _ => ⟨rfl, rfl⟩⟩
    cases member
  | cons first front ih =>
    have working := works first (List.mem_cons_self ..)
    have lost := independent.worked first (List.mem_cons_self ..) s working
    have apart := fun {backend : Backend σ} (member : backend ∈ front) =>
      independent.leaves (List.mem_append_left behind member)
    obtain ⟨after, run, others, spared⟩ := ih independent.tail (first.erased key s)
      fun backend member => by
        rw [(apart member).1.erases]
        exact works backend (List.mem_cons_of_mem _ member)
    refine ⟨after, ?_, ?_, ?_⟩
    · rw [List.cons_append, List.map_cons, SecretChain.eraseFrom, ActionE.run_bind,
        run_erase_alone, erases_iff.mp working]
      exact run
    · intro backend member
      rcases List.mem_cons.mp member with rfl | later
      · rw [(spared backend fun other later => (apart later).2).1, lost]
      · rw [others backend later, (apart later).1.held]
    · intro other leaves
      have before := leaves first (List.mem_cons_self ..)
      obtain ⟨same, answer⟩ := spared other fun backend member =>
        leaves backend (List.mem_cons_of_mem _ member)
      exact ⟨same.trans (before.held s), answer.trans (before.answer s)⟩

/-- The stores up to the first one that fails lose the key and the others hold what they held; the
answer is that failure. -/
theorem run_erase (independent : Independent key backends) (s : σ) :
    ∃ answer after, ((chain backends).set key none).run s = (answer, after) ∧
      (missed backends key s = [] → answer = .ok ()) ∧
      (∀ broken ∈ (missed backends key s).head?, answer = broken.eraseAnswer key s) ∧
      (∀ backend ∈ reached backends key s, backend.held after = (backend.held s).put key none) ∧
      ∀ backend ∈ missed backends key s, backend.held after = backend.held s := by
  have whole := reached_append_missed backends key s
  have works := fun backend => @erases_of_reached σ key s backend backends
  have stops := fun backend => @not_erases_of_missed σ key s backend backends
  generalize reached backends key s = front at whole works
  generalize missed backends key s = behind at whole stops
  subst whole
  obtain ⟨after, run, lost, spared⟩ := independent.run_front s works
  have apart := (List.pairwise_append.mp independent.apart).2.2
  have same : ∀ backend ∈ behind, backend.held after = backend.held s ∧
      backend.eraseAnswer key after = backend.eraseAnswer key s := fun backend later =>
    spared backend fun other before => (apart other before backend later).1
  have erasing : (SecretChain.eraseFrom key (chain (front ++ behind)).stores).run s = _ := run
  rw [SecretChain.run_set_none, erasing]
  cases behind with
  | nil =>
    refine ⟨.ok (), _, rfl, fun _ => rfl, by simp, fun backend before => ?_, by simp⟩
    rw [independent.reports backend (List.mem_append_left _ before), lost backend before]
  | cons broken behind =>
    obtain ⟨kept, answer⟩ := same broken (List.mem_cons_self ..)
    obtain ⟨failure, fails⟩ := not_erases_iff.mp (stops broken rfl)
    rw [List.map_cons, SecretChain.eraseFrom, ActionE.run_bind, run_erase_alone, answer, fails]
    refine ⟨.error failure, broken.erased key after, rfl, fun empty =>
      absurd empty (List.cons_ne_nil _ _), ?_, ?_, ?_⟩
    · rintro other isFirst
      cases isFirst
      exact fails.symm
    · intro backend before
      rw [(apart backend before broken (List.mem_cons_self ..)).2.held, lost backend before]
    · intro backend later
      rcases List.mem_cons.mp later with rfl | further
      · rw [independent.failed backend (List.mem_append_right _ later) after
          (not_erases_iff.mpr ⟨failure, answer.trans fails⟩), kept]
      · have between := (List.pairwise_append.mp independent.apart).2.1
        rw [((List.pairwise_cons.mp between).1 backend further).1.held, (same backend later).1]

end Independent

/-- Erasing fails exactly if some store fails, with the failure of the first one that does.  The
stores in front of that one lose the key, and no other store changes; so no store that can erase the
key still holds it exactly if those behind the failure had nothing under it. -/
theorem erasing_reaches_all_iff {key : String} {backends : List (Backend σ)}
    (independent : Independent key backends) (nonempty : backends ≠ []) (s : σ) :
    ∃ manager answer after, SecretChain.ofStores (backends.map (·.store)) = .ok manager ∧
      (manager.store.set key none).run s = (answer, after) ∧
      (answer.isOk = false ↔ ∃ backend ∈ backends, backend.erases key s = false) ∧
      (∀ broken ∈ (missed backends key s).head?, answer = broken.eraseAnswer key s) ∧
      (∀ backend ∈ reached backends key s, backend.held after = (backend.held s).put key none) ∧
      (∀ backend ∈ missed backends key s, backend.held after = backend.held s) ∧
      ((∀ backend ∈ backends, backend.erases key s = true → backend.held after key = none) ↔
        ∀ backend ∈ missed backends key s, backend.erases key s = true →
          backend.held s key = none) := by
  obtain ⟨answer, after, run, complete, failure, lost, kept⟩ := independent.run_erase s
  have built : SecretChain.ofStores (backends.map (·.store)) = .ok (chain backends) :=
    if_neg (by simpa using nonempty)
  have whole := reached_append_missed backends key s
  refine ⟨chain backends, answer, after, built, run, ?_, failure, lost, kept, ?_⟩
  · cases rest : missed backends key s with
    | nil =>
      rw [complete rest]
      refine iff_of_false nofun ?_
      rintro ⟨backend, member, broken⟩
      rw [← whole, rest, List.append_nil] at member
      rw [erases_of_reached member] at broken
      cases broken
    | cons broken behind =>
      have first : broken ∈ (missed backends key s).head? := by
        rw [rest]
        rfl
      have fails := not_erases_of_missed first
      refine iff_of_true ?_ ⟨broken, ?_, fails⟩
      · rw [failure broken first]
        exact fails
      · rw [← whole, rest]
        exact List.mem_append_right _ (List.mem_cons_self ..)
  · constructor
    · intro empty backend member works
      rw [← kept backend member]
      exact empty backend (whole ▸ List.mem_append_right _ member) works
    · intro empty backend member works
      rw [← whole] at member
      rcases List.mem_append.mp member with before | behind
      · rw [lost backend before, SecretMap.put_self]
      · rw [kept backend behind]
        exact empty backend behind works

end Backend

/-! ## A keyring between two tables -/

namespace Drawers

/-- A keyring without a keyring service, which holds nothing. -/
def deadKeyring : Backend Drawers where
  store := Keyring.absent.store serviceName
  held _ _ := none

variable (index : Nat) {key : String} (drawers : Drawers)

theorem erased_backend (valid : SecretKey.Valid key) :
    (backend index).eraseAnswer key drawers = .ok () ∧
      (backend index).erased key drawers =
        (tablePart index).set ((drawers.tables index).put key none) drawers := by
  have run := run_set index key drawers none valid
  exact ⟨congrArg Prod.fst run, congrArg Prod.snd run⟩

theorem erased_deadKeyring (valid : SecretKey.Valid key) :
    deadKeyring.eraseAnswer key drawers = .error (.credential (.keyring Keyring.noService)) ∧
      deadKeyring.erased key drawers = drawers := by
  have run : (deadKeyring.store.set key none).run drawers =
      (.error (.credential (.keyring Keyring.noService)), drawers) := by
    show ((Keyring.absent : Keyring Drawers).set serviceName key none).run drawers = _
    unfold Keyring.set Keyring.entry
    rw [SecretKey.require_of_valid valid]
    rfl
  exact ⟨congrArg Prod.fst run, congrArg Prod.snd run⟩

theorem independent (valid : SecretKey.Valid key) :
    Backend.Independent key [backend 0, deadKeyring, backend 1] where
  worked := by
    intro store member s works
    simp only [List.mem_cons, List.not_mem_nil, or_false] at member
    rcases member with rfl | rfl | rfl
    · exact (isMap 0).changed key none s valid
    · rw [Backend.erases_iff, (erased_deadKeyring s valid).1] at works
      cases works
    · exact (isMap 1).changed key none s valid
  failed := by
    intro store member s fails
    obtain ⟨failure, fails⟩ := Backend.not_erases_iff.mp fails
    simp only [List.mem_cons, List.not_mem_nil, or_false] at member
    rcases member with rfl | rfl | rfl
    · rw [(erased_backend 0 s valid).1] at fails
      cases fails
    · rfl
    · rw [(erased_backend 1 s valid).1] at fails
      cases fails
  apart := by
    have toKeyring (index : Nat) : Backend.Leaves key (backend index) deadKeyring :=
      ⟨fun _ => rfl, fun s => by
        rw [(erased_deadKeyring _ valid).1, (erased_deadKeyring _ valid).1]⟩
    have fromKeyring (index : Nat) : Backend.Leaves key deadKeyring (backend index) :=
      ⟨fun s => by rw [(erased_deadKeyring s valid).2],
        fun s => by rw [(erased_deadKeyring s valid).2]⟩
    have between {index other : Nat} (different : other ≠ index) :
        Backend.Leaves key (backend index) (backend other) :=
      ⟨fun s => (spares index different).set key none s valid, fun s => by
        rw [(erased_backend other _ valid).1, (erased_backend other _ valid).1]⟩
    have first : ∀ other ∈ [deadKeyring, backend 1],
        Backend.Leaves key (backend 0) other ∧ Backend.Leaves key other (backend 0) := by
      intro other member
      simp only [List.mem_cons, List.not_mem_nil, or_false] at member
      rcases member with rfl | rfl
      · exact ⟨toKeyring 0, fromKeyring 0⟩
      · exact ⟨between (by decide), between (by decide)⟩
    have second : ∀ other ∈ [backend 1],
        Backend.Leaves key deadKeyring other ∧ Backend.Leaves key other deadKeyring := by
      intro other member
      rw [List.mem_singleton.mp member]
      exact ⟨fromKeyring 1, toKeyring 1⟩
    exact .cons first (.cons second (List.pairwise_singleton _ _))
  reports := by
    intro store member entry s
    simp only [List.mem_cons, List.not_mem_nil, or_false] at member
    rcases member with rfl | rfl | rfl <;> rfl

/-- Two tables that hold secrets under one key. -/
def filled : Drawers where
  tables index := if index = 0 then ⟨[("token", "new")], 0⟩ else ⟨[("token", "old")], 0⟩

end Drawers

namespace Backend

/-- The table in front of the keyring loses its secret, the one behind it does not. -/
theorem erasing_reaches_all_iff_around_keyring :
    let tables := [Drawers.backend 0, Drawers.deadKeyring, Drawers.backend 1]
    Independent "token" tables ∧ tables ≠ [] ∧
      ∃ manager answer after, SecretChain.ofStores (tables.map (·.store)) = .ok manager ∧
        (manager.store.set "token" none).run Drawers.filled = (answer, after) ∧
        answer = .error (.credential (.keyring Keyring.noService)) ∧
        (Drawers.backend 0).held after "token" = none ∧
        (Drawers.backend 1).held after "token" = some "old" := by
  intro tables
  have valid : SecretKey.Valid "token" := by decide
  have nonempty : tables ≠ [] := nofun
  have independent := Drawers.independent valid
  obtain ⟨manager, answer, after, built, run, _, failure, lost, kept, _⟩ :=
    erasing_reaches_all_iff independent nonempty Drawers.filled
  refine ⟨independent, nonempty, manager, answer, after, built, run, ?_, ?_, ?_⟩
  · rw [failure Drawers.deadKeyring rfl]
    exact (Drawers.erased_deadKeyring Drawers.filled valid).1
  · rw [lost (Drawers.backend 0) (List.mem_cons_self ..), SecretMap.put_self]
  · rw [kept (Drawers.backend 1) (List.mem_cons_of_mem _ (List.mem_cons_self ..))]
    rfl

/-- A secret survives its erasure behind a keyring that cannot be used. -/
theorem erasing_stops_at_keyring :
    ∃ manager, SecretChain.ofStores ([Drawers.deadKeyring, Drawers.backend 1].map (·.store)) =
        .ok manager ∧
      (Drawers.backend 1).erases "token" Drawers.filled = true ∧
      let run := (manager.store.set "token" none).run Drawers.filled
      run.1 = .error (.credential (.keyring Keyring.noService)) ∧
        (Drawers.backend 1).held run.2 "token" = some "old" ∧
        (((Drawers.backend 1).store.get "token").run run.2).1 = .ok (some "old") :=
  ⟨_, rfl, rfl, rfl, rfl, rfl⟩

end Backend

end AccountKeeper
