import AccountKeeper.Proofs.Accounts.Listing
import AccountKeeper.Proofs.Server.Endpoint

/-!
# Accounts of one interface

A register keeps accounts apart by login and address.  Two addresses that
differ in nothing but the scheme can lead to the same interface, and then a
login is registered there twice.  `one_account_per_interface_iff` says that
this is the only way for it to happen, however many additions fail.
-/

set_option autoImplicit false

namespace AccountKeeper

namespace Account

def SameLogin (account other : Account) : Prop :=
  account.login.toList.map Char.toLower = other.login.toList.map Char.toLower

/-- The accounts are one login on one interface. -/
def SharesInterface (account other : Account) : Prop :=
  account.SameLogin other ∧ account.server.apiUrl = other.server.apiUrl

/-- The accounts are one login, on addresses that differ in a scheme that does not matter. -/
def Respells (account other : Account) : Prop :=
  account.SameLogin other ∧ account.server.Respells other.server

/-- Accounts that a register keeps apart share an interface only if one respells the other. -/
theorem sharesInterface_iff {account other : Account} (parsed : account.server.Parsed)
    (parsed' : other.server.Parsed) (apart : ¬account.Alike other) :
    account.SharesInterface other ↔ account.Respells other := by
  unfold SharesInterface Respells
  rw [ServerAddress.apiUrl_eq_iff parsed parsed']
  constructor
  · rintro ⟨login, server | respells⟩
    · exact absurd ⟨login, server⟩ apart
    · exact ⟨login, respells⟩
  · rintro ⟨login, respells⟩
    exact ⟨login, .inr respells⟩

end Account

/-- The listed accounts are kept apart, and their addresses were read. -/
structure Desk.Sorted (desk : Desk) : Prop where
  apart : desk.listed.Pairwise fun account other => ¬account.Alike other
  parsed : ∀ account ∈ desk.listed, account.server.Parsed

namespace Outages

variable (outages : Outages) (path : String)

/-- An addition leaves the list as it is or puts an account at its end that is unlike all others,
whichever calls fail. -/
theorem add_listed (desk : Desk) (account : Account) (token : String) :
    let after := (((outages.register path).add account token).run desk).2
    after.listed = desk.listed ∨ after.listed = desk.listed ++ [account] ∧
      ∀ other ∈ desk.listed, ¬other.Alike account := by
  rw [run_add]
  cases admitted : admission desk.listed account with
  | error failure => exact .inl rfl
  | ok _ =>
    cases outages.secrets desk.secretCalls with
    | some failure => exact .inl rfl
    | none =>
      cases outages.saveFault (desk.saves + 1) with
      | some fault =>
        exact .inl (outages.undone_eq _ desk.listed account (.account (.stateFile fault))).1
      | none =>
        have new := ((admission_eq_ok desk.listed account).mp admitted).2
        exact .inr ⟨rfl, fun other member => (new other member).2⟩

theorem add_sorted {desk : Desk} (sorted : desk.Sorted) (account : Account) (token : String)
    (parsed : account.server.Parsed) :
    (((outages.register path).add account token).run desk).2.Sorted := by
  rcases outages.add_listed path desk account token with same | ⟨grown, new⟩
  · constructor
    · rw [same]
      exact sorted.apart
    · rw [same]
      exact sorted.parsed
  · constructor
    · rw [grown]
      refine List.pairwise_append.mpr ⟨sorted.apart, List.pairwise_singleton _ _, ?_⟩
      intro known among other single
      rw [List.mem_singleton.mp single]
      exact new known among
    · intro other member
      rw [grown] at member
      rcases List.mem_append.mp member with known | single
      · exact sorted.parsed other known
      · rw [List.mem_singleton.mp single]
        exact parsed

/-- Additions one after another. -/
def addAll (adds : List (Account × String)) (desk : Desk) : Desk :=
  (outages.performAll path (adds.map fun (account, token) => .add account token) desk).2

theorem addAll_sorted (adds : List (Account × String)) {desk : Desk} (sorted : desk.Sorted)
    (parsed : ∀ add ∈ adds, add.1.server.Parsed) : (outages.addAll path adds desk).Sorted := by
  induction adds generalizing desk with
  | nil => exact sorted
  | cons add adds ih =>
    have first := outages.add_sorted path sorted add.1 add.2 (parsed add List.mem_cons_self)
    exact ih first fun later member => parsed later (List.mem_cons_of_mem add member)

/-- A register that starts without a state file lists a login once for each interface, unless
addresses that differ in a scheme that does not matter were added for it. -/
theorem one_account_per_interface_iff (before : Desk) (missing : before.file = none)
    (adds : List (Account × String)) (parsed : ∀ add ∈ adds, add.1.server.Parsed) :
    let opened := (outages.register path).load.run before
    let after := outages.addAll path adds opened.2
    opened.1 = .ok () ∧
      ((after.listed.Pairwise fun account other => ¬account.SharesInterface other) ↔
        after.listed.Pairwise fun account other => ¬account.Respells other) := by
  intro opened after
  have loaded : opened = (.ok (), before.listing []) := by
    have ran : opened = _ := outages.run_load path before
    rw [ran]
    unfold Desk.onFile
    rw [missing]
  have sorted : after.Sorted := by
    refine outages.addAll_sorted path adds ?_ parsed
    rw [loaded]
    refine ⟨List.Pairwise.nil, ?_⟩
    intro account member
    cases member
  have same : after.listed.Pairwise fun account other =>
      (account.SharesInterface other ↔ account.Respells other) := by
    refine sorted.apart.imp_of_mem ?_
    intro account other member member' apart
    exact Account.sharesInterface_iff (sorted.parsed account member) (sorted.parsed other member')
      apart
  refine ⟨by rw [loaded], ?_⟩
  constructor
  · intro single
    exact (single.and same).imp fun both respells => both.1 (both.2.mpr respells)
  · intro spelled
    exact (spelled.and same).imp fun both shares => both.1 (both.2.mp shares)

end Outages

open Outages (never)

theorem one_account_per_interface_iff_for_two_logins :
    let adds := [(Account.alice, "a"), (Account.bob, "b")]
    let opened := (never.register "accounts.toml").load.run {}
    let after := never.addAll "accounts.toml" adds opened.2
    ({} : Desk).file = none ∧ (∀ add ∈ adds, add.1.server.Parsed) ∧ opened.1 = .ok () ∧
      ((after.listed.Pairwise fun account other => ¬account.SharesInterface other) ↔
        after.listed.Pairwise fun account other => ¬account.Respells other) := by
  have parsed : ∀ add ∈ [(Account.alice, "a"), (Account.bob, "b")], add.1.server.Parsed := by
    intro add member
    refine ⟨"github.com", ?_⟩
    rcases List.mem_cons.mp member with rfl | other
    · rfl
    · rw [List.mem_singleton.mp other]
      rfl
  exact ⟨rfl, parsed,
    never.one_account_per_interface_iff "accounts.toml" {} rfl [(.alice, "a"), (.bob, "b")] parsed⟩

/-- The login of `alice`, on the address `https://github.com` in place of `github.com`. -/
def Account.aliceByUrl : Account :=
  ⟨⟨.random 1⟩, "alice", ⟨some .https, "github.com", none, none⟩⟩

/-- Both additions succeed. -/
theorem login_listed_twice_on_one_interface :
    let opened := (never.register "accounts.toml").load.run {}
    let after := never.addAll "accounts.toml" [(.alice, "a"), (.aliceByUrl, "b")] opened.2
    ServerAddress.parse "github.com" = .ok Account.alice.server ∧
      ServerAddress.parse "https://github.com" = .ok Account.aliceByUrl.server ∧
      opened.1 = .ok () ∧ after.listed = [.alice, .aliceByUrl] ∧
      Account.alice.SharesInterface .aliceByUrl := by
  exact ⟨rfl, rfl, rfl, rfl, rfl, rfl⟩

end AccountKeeper
