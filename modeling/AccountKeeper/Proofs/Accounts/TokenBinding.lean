import AccountKeeper.Proofs.Accounts.Desk
import AccountKeeper.Proofs.Accounts.Document

/-!
# Accounts and their tokens

In every run of a register each listed account has its token: the one of the
last addition or replacement that succeeded, or the one it started with.  The
invariant joins the three places that have to agree: the list in memory, the
state file and the secrets.
-/

set_option autoImplicit false

namespace AccountKeeper

/-! ## Runs -/

inductive RegisterOp where
  | add (account : Account) (token : String)
  | setToken (id : AccountId) (token : String)
  | token (id : AccountId)
  | accounts
  /-- Starts anew from the state file; the former register stays where that fails. -/
  | reopen

inductive RegisterCall where
  | add (account : Account) (token : String) (answer : Except Failure Unit)
  | setToken (id : AccountId) (token : String) (answer : Except Failure Unit)
  | token (id : AccountId) (answer : Except Failure (Option String))
  | accounts (answer : Except Failure (List Account))
  | reopen (answer : Except Failure Unit)

/-- The token that a call gives to an account. -/
def RegisterCall.gives (call : RegisterCall) (id : AccountId) : Option String :=
  match call with
  | .add account given (.ok ()) => if account.id = id then some given else none
  | .setToken other given (.ok ()) => if other = id then some given else none
  | _ => none

/-- The token that an account was given last, or the one it had at the start. -/
def lastToken (initial : Option String) (history : List RegisterCall) (id : AccountId) :
    Option String :=
  history.foldl (fun token call => (call.gives id).or token) initial

theorem lastToken_snoc (initial : Option String) (history : List RegisterCall)
    (call : RegisterCall) (id : AccountId) :
    lastToken initial (history ++ [call]) id =
      (call.gives id).or (lastToken initial history id) := by
  simp [lastToken]

def Desk.ids (desk : Desk) : List AccountId :=
  desk.listed.map (·.id)

/-- The tokens of all listed accounts are the same on two desks, and so are list and file. -/
structure Desk.SameFor (before after : Desk) : Prop where
  listed : after.listed = before.listed
  file : after.file = before.file
  tokens : ∀ id ∈ before.ids,
    after.secrets.get? id.secretKey = before.secrets.get? id.secretKey

/-- List, state file and secrets agree on the accounts, and each has the token given last. -/
structure Desk.Bound (path : String) (initial : AccountId → Option String)
    (history : List RegisterCall) (desk : Desk) : Prop where
  distinct : desk.ids.Nodup
  onFile : ∀ found, desk.onFile path = .ok found → found.map (·.id) = desk.ids
  token : ∀ id ∈ desk.ids, ∃ token,
    desk.secrets.get? id.secretKey = some token ∧ lastToken (initial id) history id = some token

namespace Outages

variable (outages : Outages) (path : String)

def perform (op : RegisterOp) (desk : Desk) : RegisterCall × Desk :=
  let register := outages.register path
  match op with
  | .add account token =>
    let (answer, after) := (register.add account token).run desk
    (.add account token answer, after)
  | .setToken id token =>
    let (answer, after) := (register.setToken id token).run desk
    (.setToken id token answer, after)
  | .token id =>
    let (answer, after) := (register.token id).run desk
    (.token id answer, after)
  | .accounts =>
    let (answer, after) := register.accounts.run desk
    (.accounts answer, after)
  | .reopen =>
    let (answer, after) := register.load.run desk
    (.reopen answer, after)

def performAll : List RegisterOp → Desk → List RegisterCall × Desk
  | [], desk => ([], desk)
  | op :: ops, desk =>
    let (call, next) := outages.perform path op desk
    let (history, after) := performAll ops next
    (call :: history, after)

/-- A save that fails leaves the state file as it was. -/
def KeepsFile : Prop :=
  ∀ save fault, outages.saveFault save = some fault →
    ∀ before content, outages.leftBySave save before content = before

/-! ## Single operations -/

variable (desk : Desk)

theorem leftBySave_ok (save : Nat) (before : Option ByteArray) (content : ByteArray)
    (works : outages.saveFault save = none) :
    outages.leftBySave save before content = some content := by
  unfold saveFault at works
  unfold leftBySave
  split at works <;> simp_all

theorem admission_ok (listed : List Account) (account : Account)
    (admitted : admission listed account = .ok ()) :
    account.id ∉ listed.map (·.id) := by
  intro known
  obtain ⟨other, member, same⟩ := List.mem_map.mp known
  unfold admission at admitted
  cases required : Login.require account.login with
  | error failure =>
    rw [required] at admitted
    cases admitted
  | ok _ =>
    rw [required] at admitted
    have known : (listed.any fun other =>
        other.id = account.id || other.isSameIdentity account.login account.server) = true :=
      List.any_eq_true.mpr ⟨other, member, by simp [same]⟩
    simp [known] at admitted

theorem add_error (keeps : outages.KeepsFile) (account : Account) (token : String)
    (failure : Failure)
    (failed : (((outages.register path).add account token).run desk).1 = .error failure) :
    desk.SameFor (((outages.register path).add account token).run desk).2 := by
  rw [run_add] at failed ⊢
  cases admitted : admission desk.listed account with
  | error failure => exact ⟨rfl, rfl, fun _ _ => rfl⟩
  | ok _ =>
    cases forced : outages.secrets desk.secretCalls with
    | some failure => exact ⟨rfl, rfl, fun _ _ => rfl⟩
    | none =>
      cases fault : outages.saveFault (desk.saves + 1) with
      | none =>
        rw [admitted, forced, fault] at failed
        cases failed
      | some cause =>
        obtain ⟨listed, file, secrets⟩ := outages.undone_eq
          (outages.enlisted desk account token) desk.listed account (.account (.stateFile cause))
        refine ⟨listed, file.trans (keeps _ _ fault _ _), ?_⟩
        intro id member
        have differs : id.secretKey ≠ account.id.secretKey := by
          intro same
          rw [AccountId.secretKey_injective _ _ same] at member
          exact admission_ok desk.listed account admitted member
        dsimp only
        rw [secrets, if_neg (fun erased => differs erased.1), enlisted_secrets, if_neg differs]

theorem add_ok (account : Account) (token : String)
    (succeeded : (((outages.register path).add account token).run desk).1 = .ok ()) :
    let after := (((outages.register path).add account token).run desk).2
    account.id ∉ desk.ids ∧
      after.listed = desk.listed ++ [account] ∧
      after.file = some (AccountDocument.print after.listed).toUTF8 ∧
      ∀ key, after.secrets.get? key =
        if key = account.id.secretKey then some token else desk.secrets.get? key := by
  rw [run_add] at succeeded ⊢
  cases admitted : admission desk.listed account with
  | error failure =>
    rw [admitted] at succeeded
    cases succeeded
  | ok _ =>
    cases forced : outages.secrets desk.secretCalls with
    | some failure =>
      rw [admitted, forced] at succeeded
      cases succeeded
    | none =>
      cases fault : outages.saveFault (desk.saves + 1) with
      | some cause =>
        rw [admitted, forced, fault] at succeeded
        cases succeeded
      | none =>
        refine ⟨admission_ok desk.listed account admitted, rfl, ?_, ?_⟩
        · exact outages.leftBySave_ok _ _ _ fault
        · exact outages.enlisted_secrets desk account token

end Outages

/-! ## What one call preserves -/

namespace Desk

variable {path : String} {initial : AccountId → Option String} {history : List RegisterCall}
  {before after : Desk}

theorem onFile_printed (desk : Desk) (path : String) (accounts : List Account)
    (written : desk.file = some (AccountDocument.print accounts).toUTF8) :
    desk.onFile path = (AccountDocument.read (AccountDocument.print accounts)).mapError
      fun fault => .account (.stateFile (.corrupted path fault)) := by
  have decoded : String.fromUTF8? (AccountDocument.print accounts).toUTF8 =
      some (AccountDocument.print accounts) :=
    dif_pos (AccountDocument.print accounts).isValidUTF8
  unfold onFile
  rw [written]
  simp only [decoded]

theorem ids_of_onFile (desk : Desk) (path : String) (accounts found : List Account)
    (written : desk.file = some (AccountDocument.print accounts).toUTF8)
    (read : desk.onFile path = .ok found) : found.map (·.id) = accounts.map (·.id) := by
  rw [onFile_printed desk path accounts written] at read
  apply AccountDocument.ids_of_read_print accounts found
  cases text : AccountDocument.read (AccountDocument.print accounts) with
  | error fault =>
    rw [text] at read
    cases read
  | ok accounts' =>
    rw [text] at read
    cases read
    rfl

theorem SameFor.refl (desk : Desk) : desk.SameFor desk :=
  ⟨rfl, rfl, fun _ _ => rfl⟩

theorem SameFor.called (desk : Desk) : desk.SameFor desk.called :=
  ⟨rfl, rfl, fun _ _ => rfl⟩

theorem Bound.same (bound : before.Bound path initial history) (same : before.SameFor after)
    (call : RegisterCall) (nothing : ∀ id, call.gives id = none) :
    after.Bound path initial (history ++ [call]) := by
  have ids : after.ids = before.ids := by
    unfold Desk.ids
    rw [same.listed]
  have onFile : after.onFile path = before.onFile path := by
    unfold Desk.onFile
    rw [same.file]
  refine ⟨ids ▸ bound.distinct, ?_, ?_⟩
  · rw [ids, onFile]
    exact bound.onFile
  · intro id member
    rw [ids] at member
    obtain ⟨token, stored, last⟩ := bound.token id member
    refine ⟨token, (same.tokens id member).trans stored, ?_⟩
    rw [lastToken_snoc, nothing, Option.none_or, last]

/-- A token that was stored for one identifier is the last for it, and no other token changes. -/
theorem Bound.token_of_given (bound : before.Bound path initial history) (given : AccountId)
    (value : String) (call : RegisterCall)
    (gives : ∀ id, call.gives id = if given = id then some value else none)
    (secrets : ∀ key, after.secrets.get? key =
      if key = given.secretKey then some value else before.secrets.get? key)
    (ids : ∀ id ∈ after.ids, id = given ∨ id ∈ before.ids) :
    ∀ id ∈ after.ids, ∃ token, after.secrets.get? id.secretKey = some token ∧
      lastToken (initial id) (history ++ [call]) id = some token := by
  intro id member
  by_cases same : id = given
  · subst same
    refine ⟨value, ?_, ?_⟩
    · rw [secrets, if_pos rfl]
    · rw [lastToken_snoc, gives, if_pos rfl, Option.some_or]
  · have listed : id ∈ before.ids := (ids id member).resolve_left same
    obtain ⟨token, stored, last⟩ := bound.token id listed
    refine ⟨token, ?_, ?_⟩
    · rw [secrets, if_neg, stored]
      exact fun keys => same (AccountId.secretKey_injective _ _ keys)
    · rw [lastToken_snoc, gives, if_neg (Ne.symm same), Option.none_or, last]

end Desk

namespace Outages

variable (outages : Outages) (path : String) {initial : AccountId → Option String}
  {history : List RegisterCall} {desk : Desk}

theorem add_bound (keeps : outages.KeepsFile) (bound : desk.Bound path initial history)
    (account : Account) (token : String) :
    let ended := ((outages.register path).add account token).run desk
    ended.2.Bound path initial (history ++ [.add account token ended.1]) := by
  intro ended
  cases answer : ended.1 with
  | error failure =>
    exact bound.same (outages.add_error path desk keeps account token failure answer) _
      fun _ => rfl
  | ok _ =>
    obtain ⟨new, listed, file, secrets⟩ := outages.add_ok path desk account token answer
    have ids : ended.2.ids = desk.ids ++ [account.id] := by
      unfold Desk.ids
      rw [listed, List.map_append, List.map_singleton]
    refine ⟨?_, ?_, ?_⟩
    · rw [ids]
      refine List.nodup_append.mpr ⟨bound.distinct, List.pairwise_singleton _ _, ?_⟩
      intro id member other single same
      rw [List.mem_singleton.mp single] at same
      exact new (same ▸ member)
    · exact fun found read => Desk.ids_of_onFile ended.2 path ended.2.listed found file read
    · refine bound.token_of_given account.id token _ (fun _ => rfl) secrets ?_
      intro id member
      rw [ids] at member
      rcases List.mem_append.mp member with old | single
      · exact .inr old
      · exact .inl (List.mem_singleton.mp single)

theorem setToken_bound (bound : desk.Bound path initial history) (id : AccountId)
    (token : String) :
    let ended := ((outages.register path).setToken id token).run desk
    ended.2.Bound path initial (history ++ [.setToken id token ended.1]) := by
  rw [run_setToken]
  split
  · cases outages.secrets desk.secretCalls with
    | some failure =>
      exact bound.same (.called desk) (.setToken id token (.error _)) fun _ => rfl
    | none =>
      refine ⟨bound.distinct, bound.onFile, ?_⟩
      exact bound.token_of_given id token _ (fun _ => rfl)
        (fun key => SecretTable.get?_put _ _ _ _) fun _ member => .inr member
  · exact bound.same (.refl desk) _ fun _ => rfl

theorem token_bound (bound : desk.Bound path initial history) (id : AccountId) :
    let ended := ((outages.register path).token id).run desk
    ended.2.Bound path initial (history ++ [.token id ended.1]) := by
  rw [run_token]
  cases outages.secrets desk.secretCalls with
  | some failure => exact bound.same (.called desk) (.token id _) fun _ => rfl
  | none => exact bound.same (.called desk) (.token id _) fun _ => rfl

theorem load_bound (bound : desk.Bound path initial history) :
    let ended := (outages.register path).load.run desk
    ended.2.Bound path initial (history ++ [.reopen ended.1]) := by
  rw [run_load]
  cases read : desk.onFile path with
  | error failure => exact bound.same (.refl desk) _ fun _ => rfl
  | ok accounts =>
    have ids : (desk.listing accounts).ids = desk.ids := bound.onFile accounts read
    refine ⟨ids ▸ bound.distinct, ?_, ?_⟩
    · rw [ids]
      exact bound.onFile
    · intro id member
      rw [ids] at member
      obtain ⟨token, stored, last⟩ := bound.token id member
      exact ⟨token, stored, by rw [lastToken_snoc]; exact last⟩

/-- Every call keeps the listed accounts bound to the tokens given last. -/
theorem perform_bound (keeps : outages.KeepsFile) (bound : desk.Bound path initial history)
    (op : RegisterOp) :
    (outages.perform path op desk).2.Bound path initial
      (history ++ [(outages.perform path op desk).1]) := by
  cases op with
  | add account token => exact outages.add_bound path keeps bound account token
  | setToken id token => exact outages.setToken_bound path bound id token
  | token id => exact outages.token_bound path bound id
  | accounts => exact bound.same (.refl desk) _ fun _ => rfl
  | reopen => exact outages.load_bound path bound

theorem performAll_bound (keeps : outages.KeepsFile) (bound : desk.Bound path initial history)
    (ops : List RegisterOp) :
    (outages.performAll path ops desk).2.Bound path initial
      (history ++ (outages.performAll path ops desk).1) := by
  induction ops generalizing desk history with
  | nil =>
    rw [performAll, List.append_nil]
    exact bound
  | cons op ops ih =>
    have first := outages.perform_bound path keeps bound op
    have others := ih first
    rw [List.append_assoc, List.singleton_append] at others
    exact others

/-! ## Whole runs -/

/-- What a register promises about tokens on a desk, after the calls of a history. -/
structure KeepsTokens (initial : AccountId → Option String) (history : List RegisterCall)
    (desk : Desk) : Prop where
  accounts : (outages.register path).accounts.run desk = (.ok desk.listed, desk)
  distinct : desk.ids.Nodup
  /-- Each listed account has the token given last; it is read unless the call on the secrets
  fails. -/
  token : ∀ account ∈ desk.listed, ∃ token,
    lastToken (initial account.id) history account.id = some token ∧
      desk.secrets.get? account.id.secretKey = some token ∧
      (((outages.register path).token account.id).run desk).1 =
        (outages.secrets desk.secretCalls).elim (.ok (some token)) fun failure =>
          .error (.credential failure)
  /-- A token is refused as one for no account exactly if the account is not listed. -/
  unknown : ∀ id token,
    (∃ name, (((outages.register path).setToken id token).run desk).1 =
      .error (.account (.notFound name))) ↔ ∀ account ∈ desk.listed, account.id ≠ id
  /-- A token that is so refused leaves the whole desk as it is. -/
  refused : ∀ id token, (∀ account ∈ desk.listed, account.id ≠ id) →
    ((outages.register path).setToken id token).run desk =
      (.error (.account (.notFound id.display)), desk)
  failedAdd : ∀ account token failure,
    (((outages.register path).add account token).run desk).1 = .error failure →
      desk.SameFor (((outages.register path).add account token).run desk).2

theorem setToken_unlisted (desk : Desk) (id : AccountId) (token : String)
    (unlisted : ∀ account ∈ desk.listed, account.id ≠ id) :
    ((outages.register path).setToken id token).run desk =
      (.error (.account (.notFound id.display)), desk) := by
  rw [run_setToken, if_neg]
  intro listed
  obtain ⟨account, member, same⟩ := List.any_eq_true.mp listed
  exact unlisted account member (of_decide_eq_true same)

theorem setToken_listed (desk : Desk) (account : Account) (token name : String)
    (listed : account ∈ desk.listed) :
    (((outages.register path).setToken account.id token).run desk).1 ≠
      .error (.account (.notFound name)) := by
  have known : desk.listed.any (·.id = account.id) = true :=
    List.any_eq_true.mpr ⟨account, listed, decide_eq_true rfl⟩
  intro answer
  rw [run_setToken, if_pos known] at answer
  cases forced : outages.secrets desk.secretCalls with
  | none =>
    rw [forced] at answer
    cases answer
  | some failure =>
    rw [forced] at answer
    cases answer

theorem keepsTokens_of_bound (keeps : outages.KeepsFile)
    (bound : desk.Bound path initial history) :
    outages.KeepsTokens path initial history desk where
  accounts := outages.run_accounts path desk
  distinct := bound.distinct
  token := by
    intro account member
    obtain ⟨token, stored, last⟩ := bound.token account.id (List.mem_map_of_mem member)
    refine ⟨token, last, stored, ?_⟩
    rw [run_token]
    cases outages.secrets desk.secretCalls with
    | none => exact congrArg Except.ok stored
    | some failure => rfl
  unknown := by
    intro id token
    constructor
    · rintro ⟨name, answer⟩ account member rfl
      exact outages.setToken_listed path desk account token name member answer
    · intro unlisted
      exact ⟨id.display, congrArg Prod.fst (outages.setToken_unlisted path desk id token unlisted)⟩
  refused := outages.setToken_unlisted path desk
  failedAdd := outages.add_error path desk keeps

/-- A register that starts on a file whose accounts all have tokens keeps them through any run. -/
theorem performAll_keepsTokens (keeps : outages.KeepsFile) (before start : Desk)
    (opened : (outages.register path).load.run before = (.ok (), start))
    (distinct : start.ids.Nodup)
    (tokens : ∀ account ∈ start.listed, (start.secrets.get? account.id.secretKey).isSome)
    (ops : List RegisterOp) :
    outages.KeepsTokens path (fun id => start.secrets.get? id.secretKey)
      (outages.performAll path ops start).1 (outages.performAll path ops start).2 := by
  have bound : start.Bound path (fun id => start.secrets.get? id.secretKey) [] := by
    refine ⟨distinct, ?_, ?_⟩
    · rw [run_load] at opened
      cases read : before.onFile path with
      | error failure =>
        rw [read] at opened
        cases opened
      | ok accounts =>
        rw [read] at opened
        cases opened
        intro found again
        have same : accounts = found := Except.ok.inj (read.symm.trans again)
        rw [same]
        rfl
    · intro id member
      obtain ⟨account, listed, rfl⟩ := List.mem_map.mp member
      obtain ⟨token, stored⟩ := Option.isSome_iff_exists.mp (tokens account listed)
      exact ⟨token, stored, stored⟩
  exact outages.keepsTokens_of_bound path keeps (outages.performAll_bound path keeps bound ops)

end Outages

/-- The first save finds no directory, and the token it was for cannot be erased again. -/
def Outages.passing : Outages where
  secrets call := if call = 1 then some .noStoreAvailable else none
  directory save := if save = 1 then some .notADirectory else none
  write _ := none
  mode _ := none

theorem Outages.passing_keepsFile : Outages.passing.KeepsFile := by
  intro save fault failed before content
  unfold saveFault leftBySave at *
  by_cases first : save = 1
  · subst first
    rfl
  · simp [passing, first] at failed

def Account.alice : Account := ⟨⟨.random 0⟩, "alice", .default⟩

def Account.bob : Account := ⟨⟨.random 1⟩, "bob", .default⟩

/-- A desk before its register is opened: one account on file, with its token. -/
def Desk.closed : Desk :=
  { file := some (AccountDocument.print [.alice]).toUTF8
    secrets := { entries := [(Account.alice.id.secretKey, "old")] } }

theorem Desk.load_closed :
    (Outages.passing.register "accounts.toml").load.run .closed =
      (.ok (), Desk.closed.listing [.alice]) := by
  have reread : (AccountDocument.read (AccountDocument.print [.alice])).toOption =
      some [.alice] := by decide +kernel
  have found : Desk.closed.onFile "accounts.toml" = .ok [.alice] := by
    rw [Desk.onFile_printed .closed "accounts.toml" [.alice] rfl]
    cases read : AccountDocument.read (AccountDocument.print [.alice]) with
    | error fault =>
      rw [read] at reread
      cases reread
    | ok accounts =>
      rw [read] at reread
      cases reread
      rfl
  rw [Outages.run_load, found]

theorem performAll_keepsTokens_of_closed :
    let start := Desk.closed.listing [.alice]
    let ops := [.add .bob "b", .setToken Account.alice.id "new", .add .bob "c", .reopen]
    Outages.passing.KeepsFile ∧
      (Outages.passing.register "accounts.toml").load.run .closed = (.ok (), start) ∧
      start.ids.Nodup ∧
      (∀ account ∈ start.listed, (start.secrets.get? account.id.secretKey).isSome) ∧
      Outages.passing.KeepsTokens "accounts.toml" (fun id => start.secrets.get? id.secretKey)
        (Outages.passing.performAll "accounts.toml" ops start).1
        (Outages.passing.performAll "accounts.toml" ops start).2 := by
  intro start ops
  have distinct : start.ids.Nodup := List.pairwise_singleton _ _
  have tokens : ∀ account ∈ start.listed,
      (start.secrets.get? account.id.secretKey).isSome := by
    intro account member
    rw [List.mem_singleton.mp member]
    simp [start, Desk.listing, Desk.closed, SecretTable.get?]
  exact ⟨Outages.passing_keepsFile, Desk.load_closed, distinct, tokens,
    Outages.passing.performAll_keepsTokens "accounts.toml" Outages.passing_keepsFile .closed start
      Desk.load_closed distinct tokens ops⟩

end AccountKeeper
