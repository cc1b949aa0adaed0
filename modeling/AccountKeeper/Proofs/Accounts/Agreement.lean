import AccountKeeper.Proofs.Accounts.Listing
import AccountKeeper.Proofs.Accounts.Table

/-!
# Two stores of accounts that agree

The register splits accounts over a list, a file and secrets; the table keeps
each account next to its token.  As long as no write fails and no account is
added under the identifier of a listed one, nobody who calls them can tell them
apart.  `Desk.Mirrors` relates the two; every call preserves it, and so does
every run.
-/

set_option autoImplicit false

namespace AccountKeeper

inductive AccountCall where
  | list
  | add (account : Account) (token : String)
  | setToken (id : AccountId) (token : String)

namespace AccountStore

variable {σ : Type}

/-- A call on a store of accounts; a write answers with nothing. -/
def perform (store : AccountStore σ) : AccountCall → Action σ (Option (List Account))
  | .list => some <$> store.list
  | .add account token => (fun _ => none) <$> store.add account token
  | .setToken id token => (fun _ => none) <$> store.setToken id token

def performAll (store : AccountStore σ) :
    List AccountCall → σ → List (Except Failure (Option (List Account))) × σ
  | [], s => ([], s)
  | call :: calls, s =>
    let (answer, next) := (store.perform call).run s
    let (answers, after) := store.performAll calls next
    (answer :: answers, after)

/-- No account is added under the identifier of one that is listed when it is added. -/
def AddsNewIds (store : AccountStore σ) (calls : List AccountCall) (s : σ) : Prop :=
  ∀ past account token listed, past ++ [.add account token] <+: calls →
    (store.list.run (store.performAll past s).2).1 = .ok listed →
      ∀ other ∈ listed, other.id ≠ account.id

variable (store : AccountStore σ) {calls : List AccountCall} {s : σ}

theorem AddsNewIds.nil : store.AddsNewIds [] s := by
  intro past account token listed within
  exact absurd (List.prefix_nil.mp within) (List.append_ne_nil_of_right_ne_nil _ (by simp))

theorem AddsNewIds.cons {call : AccountCall}
    (start : ∀ account token listed, call = .add account token →
      (store.list.run s).1 = .ok listed → ∀ other ∈ listed, other.id ≠ account.id)
    (rest : store.AddsNewIds calls ((store.perform call).run s).2) :
    store.AddsNewIds (call :: calls) s := by
  intro past account token listed within answer
  cases past with
  | nil =>
    have first : AccountCall.add account token = call :=
      (List.cons_prefix_cons.mp within).1
    exact start account token listed first.symm answer
  | cons earlier past =>
    obtain ⟨rfl, later⟩ := List.cons_prefix_cons.mp within
    exact rest past account token listed later answer

theorem AddsNewIds.start {account : Account} {token : String}
    (new : store.AddsNewIds (.add account token :: calls) s) (listed : List Account)
    (answer : (store.list.run s).1 = .ok listed) : ∀ other ∈ listed, other.id ≠ account.id :=
  new [] account token listed ⟨calls, rfl⟩ answer

theorem AddsNewIds.rest {call : AccountCall} (new : store.AddsNewIds (call :: calls) s) :
    store.AddsNewIds calls ((store.perform call).run s).2 := by
  intro past account token listed before answer
  apply new (call :: past) account token listed _ answer
  exact (List.prefix_cons_inj call).mpr before

theorem AddsNewIds.of_prefix {past : List AccountCall} (new : store.AddsNewIds calls s)
    (before : past <+: calls) : store.AddsNewIds past s := by
  intro earlier account token listed within answer
  exact new earlier account token listed (within.trans before) answer

end AccountStore

/-! ## Tables -/

namespace AccountTable

theorem replaceToken_accounts (id : AccountId) (token : String)
    (entries : List (Account × String)) :
    (replaceToken id token entries).map (·.1) = entries.map (·.1) := by
  induction entries with
  | nil => rfl
  | cons entry rest ih =>
    unfold replaceToken
    split
    · rfl
    · rw [List.map_cons, List.map_cons, ih]

theorem mem_replaceToken {id : AccountId} {token : String} {entries : List (Account × String)}
    (distinct : (entries.map (·.1.id)).Nodup) {entry : Account × String}
    (member : entry ∈ replaceToken id token entries) :
    if entry.1.id = id then entry.2 = token else entry ∈ entries := by
  induction entries with
  | nil => cases member
  | cons first rest ih =>
    rw [List.map_cons, List.nodup_cons] at distinct
    unfold replaceToken at member
    by_cases here : first.1.id = id
    · rw [if_pos here] at member
      rcases List.mem_cons.mp member with rfl | later
      · exact (if_pos here).mpr rfl
      · have other : entry.1.id ≠ id := by
          intro same
          apply distinct.1
          rw [here, ← same]
          exact List.mem_map_of_mem (f := (·.1.id)) later
        rw [if_neg other]
        exact List.mem_cons_of_mem _ later
    · rw [if_neg here] at member
      rcases List.mem_cons.mp member with rfl | later
      · rw [if_neg here]
        exact List.mem_cons_self
      · have found := ih distinct.2 later
        split at found
        · rename_i same
          rw [if_pos same]
          exact found
        · rename_i other
          rw [if_neg other]
          exact List.mem_cons_of_mem _ found

theorem run_setToken (table : AccountTable) (id : AccountId) (token : String) :
    (setToken id token).run table =
      match table.requireWritable with
      | .error failure => (.error failure, table)
      | .ok () =>
        if table.accounts.any (·.id = id) then
          (.ok (), { table with entries := replaceToken id token table.entries })
        else (.error (.account (.notFound id.display)), table) := by
  unfold setToken
  rw [ActionE.run_bind, ActionE.run_get]
  dsimp only
  rw [ActionE.run_bind, ActionE.run_ofExcept]
  cases table.requireWritable with
  | error failure => rfl
  | ok _ =>
    have listed : table.accounts.any (·.id = id) = table.entries.any (·.1.id = id) :=
      List.any_map
    rw [listed]
    dsimp only
    split <;> rfl

end AccountTable

/-! ## The relation -/

/-- A desk lists the accounts of a table, and has their tokens among its secrets. -/
structure Desk.Mirrors (desk : Desk) (table : AccountTable) : Prop where
  writable : table.readOnly = false
  listed : desk.listed = table.accounts
  distinct : (table.entries.map (·.1.id)).Nodup
  tokens : ∀ entry ∈ table.entries, desk.secrets.get? entry.1.id.secretKey = some entry.2

namespace Desk.Mirrors

open Outages (never)

variable {desk : Desk} {table : AccountTable} (mirrors : desk.Mirrors table) (path : String)

include mirrors

theorem admission_eq (account : Account) (token : String)
    (new : ∀ other ∈ desk.listed, other.id ≠ account.id) :
    Outages.admission desk.listed account = (table.grown account token).map fun _ => () := by
  have known : (desk.listed.any fun other =>
        other.id = account.id || other.isSameIdentity account.login account.server) =
      table.hasIdentity account.login account.server := by
    have same : (desk.listed.any fun other =>
          other.id = account.id || other.isSameIdentity account.login account.server) =
        desk.listed.any fun other => other.isSameIdentity account.login account.server := by
      rw [Bool.eq_iff_iff, List.any_eq_true, List.any_eq_true]
      refine exists_congr fun other => and_congr_right fun member => ?_
      rw [decide_eq_false (new other member), Bool.false_or]
    rw [same, mirrors.listed]
    exact List.any_map
  have writable : table.requireWritable = .ok () :=
    if_neg (by simp [mirrors.writable])
  unfold Outages.admission AccountTable.grown
  rw [writable, known]
  cases Login.require account.login with
  | error failure => rfl
  | ok _ =>
    dsimp only
    split <;> rfl

theorem grown {after : Desk} (account : Account) (token : String)
    (new : ∀ other ∈ desk.listed, other.id ≠ account.id)
    (listed : after.listed = desk.listed ++ [account])
    (secrets : ∀ key, after.secrets.get? key =
      if key = account.id.secretKey then some token else desk.secrets.get? key) :
    after.Mirrors { table with entries := table.entries ++ [(account, token)] } where
  writable := mirrors.writable
  listed := by
    rw [listed, mirrors.listed]
    change _ = List.map Prod.fst (table.entries ++ [(account, token)])
    rw [List.map_append]
    rfl
  distinct := by
    rw [List.map_append]
    apply List.nodup_append.mpr
    refine ⟨mirrors.distinct, List.pairwise_singleton _ _, ?_⟩
    intro id member other single same
    obtain ⟨entry, known, rfl⟩ := List.mem_map.mp member
    rw [List.map_singleton, List.mem_singleton] at single
    apply new entry.1
    · rw [mirrors.listed]
      exact List.mem_map_of_mem known
    · exact same.trans single
  tokens := by
    intro entry member
    rw [secrets]
    rcases List.mem_append.mp member with old | single
    · have other : entry.1.id.secretKey ≠ account.id.secretKey := by
        intro same
        apply new entry.1
        · rw [mirrors.listed]
          exact List.mem_map_of_mem old
        · exact AccountId.secretKey_injective _ _ same
      rw [if_neg other]
      exact mirrors.tokens entry old
    · rw [List.mem_singleton.mp single, if_pos rfl]

theorem add (account : Account) (token : String)
    (new : ∀ other ∈ desk.listed, other.id ≠ account.id) :
    let ended := ((never.register path).add account token).run desk
    let ended' := (AccountTable.add account token).run table
    ended.1 = ended'.1 ∧ ended.2.Mirrors ended'.2 := by
  intro ended ended'
  have admission := mirrors.admission_eq account token new
  have ran := never.run_add path desk account token
  have ran' := table.run_add account token
  cases answer : table.grown account token with
  | error failure =>
    rw [answer] at admission ran'
    rw [admission] at ran
    have kept : ended = (.error failure, desk) := ran
    have kept' : ended' = (.error failure, table) := ran'
    rw [kept, kept']
    exact ⟨rfl, mirrors⟩
  | ok grown =>
    rw [answer] at admission ran'
    rw [admission] at ran
    have added : ended.1 = .ok () := congrArg Prod.fst ran
    have added' : ended' = (.ok (), grown) := ran'
    obtain ⟨_, rfl⟩ := table.grown_eq_ok grown account token answer
    obtain ⟨_, listed, _, secrets⟩ := never.add_ok path desk account token added
    rw [added, added']
    exact ⟨rfl, mirrors.grown account token new listed secrets⟩

theorem replaced (id : AccountId) (token : String) :
    (desk.storing id.secretKey (some token)).Mirrors
      { table with entries := AccountTable.replaceToken id token table.entries } where
  writable := mirrors.writable
  listed := mirrors.listed.trans (AccountTable.replaceToken_accounts id token table.entries).symm
  distinct := by
    have ids := congrArg (List.map Account.id)
      (AccountTable.replaceToken_accounts id token table.entries)
    rw [List.map_map, List.map_map] at ids
    exact ids ▸ mirrors.distinct
  tokens := by
    intro entry member
    have found := AccountTable.mem_replaceToken mirrors.distinct member
    have put := SecretTable.get?_put desk.secrets id.secretKey entry.1.id.secretKey (some token)
    refine put.trans ?_
    by_cases same : entry.1.id = id
    · rw [if_pos same] at found
      rw [same, if_pos rfl, found]
    · rw [if_neg same] at found
      rw [if_neg fun keys => same (AccountId.secretKey_injective _ _ keys)]
      exact mirrors.tokens entry found

theorem setToken (id : AccountId) (token : String) :
    let ended := ((never.register path).setToken id token).run desk
    let ended' := (AccountTable.setToken id token).run table
    ended.1 = ended'.1 ∧ ended.2.Mirrors ended'.2 := by
  intro ended ended'
  have ran := never.run_setToken path desk id token
  have ran' := table.run_setToken id token
  have writable : table.requireWritable = .ok () :=
    if_neg (by simp [mirrors.writable])
  rw [writable] at ran'
  rw [mirrors.listed] at ran
  by_cases known : table.accounts.any (·.id = id) = true
  · rw [if_pos known] at ran
    have stored : ended = (.ok (), desk.storing id.secretKey (some token)) := ran
    have stored' : ended' =
        (.ok (), { table with entries := AccountTable.replaceToken id token table.entries }) :=
      ran'.trans (if_pos known)
    rw [stored, stored']
    exact ⟨rfl, mirrors.replaced id token⟩
  · rw [if_neg known] at ran
    have refused : ended = (.error (.account (.notFound id.display)), desk) := ran
    have refused' : ended' = (.error (.account (.notFound id.display)), table) :=
      ran'.trans (if_neg known)
    rw [refused, refused']
    exact ⟨rfl, mirrors⟩

/-- A call gets the same answer from both stores and keeps them related. -/
theorem perform (call : AccountCall)
    (new : ∀ account token, call = .add account token →
      ∀ other ∈ desk.listed, other.id ≠ account.id) :
    let ended := ((never.register path).store.perform call).run desk
    let ended' := (AccountTable.store.perform call).run table
    ended.1 = ended'.1 ∧ ended.2.Mirrors ended'.2 := by
  cases call with
  | list =>
    refine ⟨?_, mirrors⟩
    exact congrArg (fun listed => Except.ok (some listed)) mirrors.listed
  | add account token =>
    obtain ⟨answer, after⟩ := mirrors.add path account token (new account token rfl)
    simp only [AccountStore.perform, ActionE.run_map]
    exact ⟨congrArg (Except.map _) answer, after⟩
  | setToken id token =>
    obtain ⟨answer, after⟩ := mirrors.setToken path id token
    simp only [AccountStore.perform, ActionE.run_map]
    exact ⟨congrArg (Except.map _) answer, after⟩

theorem performAll (calls : List AccountCall) (new : AccountTable.store.AddsNewIds calls table) :
    let ended := (never.register path).store.performAll calls desk
    let ended' := AccountTable.store.performAll calls table
    ended.1 = ended'.1 ∧ ended.2.Mirrors ended'.2 := by
  induction calls generalizing desk table with
  | nil => exact ⟨rfl, mirrors⟩
  | cons call calls ih =>
    have first : ∀ account token, call = .add account token →
        ∀ other ∈ desk.listed, other.id ≠ account.id := by
      rintro account token rfl
      rw [mirrors.listed]
      exact new.start _ table.accounts rfl
    obtain ⟨answer, next⟩ := mirrors.perform path call first
    obtain ⟨answers, after⟩ := ih next (new.rest _)
    refine ⟨?_, after⟩
    simp only [AccountStore.performAll]
    rw [answer, answers]

end Desk.Mirrors

/-! ## Whole runs -/

/-- What both stores say about their accounts: the same list, and the same token for each. -/
structure Desk.Agrees (path : String) (desk : Desk) (table : AccountTable) : Prop where
  accounts : (Outages.never.register path).accounts.run desk = (.ok table.accounts, desk)
  accounts' : AccountTable.store.list.run table = (.ok table.accounts, table)
  token : ∀ entry ∈ table.entries,
    (((Outages.never.register path).token entry.1.id).run desk).1 = .ok (some entry.2)
  /-- The table is asked for a token by a login, and answers for the first account that has it. -/
  tokenOf : ∀ login account, table.accounts.find? (·.login = login) = some account →
    (((Outages.never.register path).token account.id).run desk).1 = .ok (table.tokenOf? login)

theorem Desk.Mirrors.agrees {desk : Desk} {table : AccountTable} (mirrors : desk.Mirrors table)
    (path : String) : desk.Agrees path table where
  accounts := by
    rw [← mirrors.listed]
    exact Outages.never.run_accounts path desk
  accounts' := rfl
  token := by
    intro entry member
    exact congrArg Except.ok (mirrors.tokens entry member)
  tokenOf := by
    intro login account first
    unfold AccountTable.accounts at first
    rw [List.find?_map] at first
    obtain ⟨entry, found, rfl⟩ := Option.map_eq_some_iff.mp first
    have stored := mirrors.tokens entry (List.mem_of_find?_eq_some found)
    have tokenOf : table.tokenOf? login = some entry.2 :=
      congrArg (Option.map Prod.snd) found
    rw [tokenOf]
    exact congrArg Except.ok stored

/-- A register on a missing file and an empty table give the same answers to all calls, and
after each of them they list the same accounts, in the same order and with the same tokens. -/
theorem stores_agree (path : String) (before : Desk) (missing : before.file = none)
    (calls : List AccountCall) (new : AccountTable.store.AddsNewIds calls {}) :
    ∃ start, (Outages.never.register path).load.run before = (.ok (), start) ∧
      ∀ past, past <+: calls →
        ((Outages.never.register path).store.performAll past start).1 =
            (AccountTable.store.performAll past {}).1 ∧
          ((Outages.never.register path).store.performAll past start).2.Agrees path
            (AccountTable.store.performAll past {}).2 := by
  have opened : (Outages.never.register path).load.run before = (.ok (), before.listing []) := by
    have empty : before.onFile path = .ok [] := by
      unfold Desk.onFile
      rw [missing]
    rw [Outages.run_load, empty]
  have start : (before.listing []).Mirrors {} := by
    refine ⟨rfl, rfl, List.nodup_nil, ?_⟩
    intro entry member
    cases member
  refine ⟨before.listing [], opened, ?_⟩
  intro past within
  obtain ⟨answers, after⟩ := start.performAll path past (new.of_prefix _ within)
  exact ⟨answers, after.agrees path⟩

/-- A second `Alice` on one server is refused by both; the secret that lay about is replaced. -/
theorem stores_agree_on_duplicate :
    let before : Desk := { secrets := { entries := [(Account.alice.id.secretKey, "left over")] } }
    let calls : List AccountCall := [.add .alice "a",
      .add ⟨⟨.random 2⟩, "Alice", .default⟩ "x", .setToken Account.alice.id "b", .list]
    before.file = none ∧ AccountTable.store.AddsNewIds calls {} ∧
      ∃ start, (Outages.never.register "accounts.toml").load.run before = (.ok (), start) ∧
        ∀ past, past <+: calls →
          ((Outages.never.register "accounts.toml").store.performAll past start).1 =
              (AccountTable.store.performAll past {}).1 ∧
            ((Outages.never.register "accounts.toml").store.performAll past start).2.Agrees
              "accounts.toml" (AccountTable.store.performAll past {}).2 := by
  intro before calls
  have new : AccountTable.store.AddsNewIds calls {} := by
    apply AccountStore.AddsNewIds.cons
    · intro account token listed call answer
      cases answer
      intro other member
      cases member
    apply AccountStore.AddsNewIds.cons
    · intro account token listed call answer
      cases call
      cases answer
      decide
    apply AccountStore.AddsNewIds.cons
    · intro account token listed call
      cases call
    apply AccountStore.AddsNewIds.cons
    · intro account token listed call
      cases call
    exact AccountStore.AddsNewIds.nil _
  exact ⟨rfl, new, stores_agree "accounts.toml" before rfl calls new⟩

end AccountKeeper
