import AccountKeeper.Proofs.Accounts.TokenBinding

/-!
# The list of accounts and its file

In every run of a register the state file holds exactly the list in memory:
`performAll_keepsListing` says that it can be opened again at any time with the
same list, that no two listed accounts share an identifier or an identity, and
that the list grows by the accounts of the additions that succeed, and by
nothing else.  It also says which additions succeed.
-/

set_option autoImplicit false

namespace AccountKeeper

/-- A login has 1 to 39 characters, all of them ASCII letters, digits, hyphens or underscores. -/
structure Login.Proper (login : String) : Prop where
  nonempty : 1 ≤ login.length
  short : login.length ≤ 39
  plain : ∀ c ∈ login.toList, c.isAlphanum = true ∨ c = '-' ∨ c = '_'

/-- Two accounts stand for one login, up to the case of ASCII letters, on one server. -/
def Account.Alike (account other : Account) : Prop :=
  account.login.toList.map Char.toLower = other.login.toList.map Char.toLower ∧
    account.server = other.server

/-- The account that a call added. -/
def RegisterCall.added? : RegisterCall → Option Account
  | .add account _ (.ok ()) => some account
  | _ => none

theorem RegisterCall.added_cons (call : RegisterCall) (history : List RegisterCall) :
    (call :: history).filterMap added? = call.added?.toList ++ history.filterMap added? := by
  rw [List.filterMap_cons]
  cases call.added? <;> rfl

/-- The state file holds a list; a missing one holds the empty list. -/
def Desk.Holds (desk : Desk) (accounts : List Account) : Prop :=
  desk.file = none ∧ accounts = [] ∨
    ∃ text, desk.file = some text.toUTF8 ∧ AccountDocument.read text = .ok accounts

/-- File and memory agree on a list of accounts that differ in all that tells them apart. -/
structure Desk.Faithful (desk : Desk) : Prop where
  holds : desk.Holds desk.listed
  distinct : desk.ids.Nodup
  apart : desk.listed.Pairwise fun account other => ¬account.Alike other
  rereads : ∀ account ∈ desk.listed, account.server.Rereads

/-! ## Admission -/

theorem Login.require_eq_ok (login : String) : Login.require login = .ok () ↔ Login.Proper login := by
  have emptied : login = "" ↔ login.length = 0 := by
    rw [← String.length_toList, List.length_eq_zero_iff, ← String.toList_eq_nil_iff]
  have word : login.toList.all Text.isWordChar = true ↔
      ∀ c ∈ login.toList, c.isAlphanum = true ∨ c = '-' ∨ c = '_' := by
    simp [Text.isWordChar, or_assoc]
  unfold Login.require Login.check
  constructor
  · intro required
    split at required
    · cases required
    · rename_i nonempty
      split at required
      · cases required
      · rename_i short
        split at required
        · rename_i plain
          rw [emptied] at nonempty
          exact ⟨by omega, Nat.le_of_not_lt short, word.mp plain⟩
        · cases required
  · intro proper
    have nonempty : ¬login = "" := by
      rw [emptied]
      have := proper.nonempty
      omega
    have short : ¬lengthLimit < login.length := Nat.not_lt_of_le proper.short
    rw [if_neg nonempty, if_neg short, if_pos (word.mpr proper.plain)]
    rfl

theorem Account.isSameIdentity_iff (other account : Account) :
    other.isSameIdentity account.login account.server = true ↔ other.Alike account := by
  simp [isSameIdentity, Alike, Text.sameIgnoringCase, Text.sameAscii]

namespace Outages

/-- Whether an account is admitted hangs on its login and on the listed accounts only. -/
theorem admission_eq_ok (listed : List Account) (account : Account) :
    admission listed account = .ok () ↔ Login.Proper account.login ∧
      ∀ other ∈ listed, other.id ≠ account.id ∧ ¬other.Alike account := by
  have known : (listed.any fun other =>
        other.id = account.id || other.isSameIdentity account.login account.server) = true ↔
      ¬∀ other ∈ listed, other.id ≠ account.id ∧ ¬other.Alike account := by
    simp [← Account.isSameIdentity_iff, Classical.or_iff_not_imp_left]
  rw [← Login.require_eq_ok]
  unfold admission
  cases Login.require account.login with
  | error failure => simp
  | ok _ =>
    dsimp only
    split
    · rename_i found
      constructor
      · intro admitted
        cases admitted
      · rintro ⟨_, new⟩
        exact absurd new (known.mp found)
    · rename_i unknown
      have new := Classical.not_not.mp fun found => unknown (known.mpr found)
      exact ⟨fun _ => ⟨rfl, new⟩, fun _ => rfl⟩

variable (outages : Outages) (path : String) (desk : Desk)

theorem add_eq_ok (account : Account) (token : String) :
    (((outages.register path).add account token).run desk).1 = .ok () ↔
      admission desk.listed account = .ok () ∧ outages.secrets desk.secretCalls = none ∧
        outages.saveFault (desk.saves + 1) = none := by
  rw [run_add]
  cases admission desk.listed account with
  | error failure => simp
  | ok _ =>
    cases outages.secrets desk.secretCalls with
    | some failure => simp
    | none =>
      cases outages.saveFault (desk.saves + 1) with
      | some fault => simp
      | none => simp

end Outages

/-! ## What one call preserves -/

namespace Desk

variable {before after desk : Desk}

theorem onFile_eq_ok (desk : Desk) (path : String) (accounts : List Account) :
    desk.onFile path = .ok accounts ↔ desk.Holds accounts := by
  unfold onFile Holds
  cases desk.file with
  | none => simp [eq_comm]
  | some content =>
    simp only [reduceCtorEq, false_and, false_or, Option.some.injEq]
    constructor
    · intro read
      by_cases valid : content.IsValidUTF8
      · refine ⟨String.fromUTF8 content valid, rfl, ?_⟩
        simp only [String.fromUTF8?, valid, dite_true] at read
        cases found : AccountDocument.read (String.fromUTF8 content valid) with
        | error fault =>
          rw [found] at read
          cases read
        | ok accounts' =>
          rw [found] at read
          cases read
          rfl
      · simp only [String.fromUTF8?, valid, dite_false] at read
        cases read
    · rintro ⟨text, rfl, read⟩
      have decoded : String.fromUTF8? text.toUTF8 = some text := dif_pos text.isValidUTF8
      simp only [decoded, read]
      rfl

theorem Faithful.same (faithful : before.Faithful) (listed : after.listed = before.listed)
    (file : after.file = before.file) : after.Faithful := by
  have ids : after.ids = before.ids := by
    unfold Desk.ids
    rw [listed]
  refine ⟨?_, ids ▸ faithful.distinct, ?_, ?_⟩
  · unfold Holds
    rw [listed, file]
    exact faithful.holds
  · rw [listed]
    exact faithful.apart
  · rw [listed]
    exact faithful.rereads

theorem Faithful.grown (faithful : before.Faithful) (account : Account)
    (listed : after.listed = before.listed ++ [account])
    (file : after.file = some (AccountDocument.print after.listed).toUTF8)
    (new : ∀ other ∈ before.listed, other.id ≠ account.id ∧ ¬other.Alike account)
    (rereads : account.server.Rereads) : after.Faithful := by
  have servers : ∀ other ∈ after.listed, other.server.Rereads := by
    intro other member
    rw [listed] at member
    rcases List.mem_append.mp member with old | single
    · exact faithful.rereads other old
    · rw [List.mem_singleton.mp single]
      exact rereads
  refine ⟨.inr ⟨_, file, AccountDocument.read_print_of_rereads _ servers⟩, ?_, ?_, servers⟩
  · unfold Desk.ids
    rw [listed, List.map_append]
    refine List.nodup_append.mpr ⟨faithful.distinct, List.pairwise_singleton _ _, ?_⟩
    intro id member other single same
    obtain ⟨known, among, rfl⟩ := List.mem_map.mp member
    rw [List.map_singleton, List.mem_singleton] at single
    exact (new known among).1 (same.trans single)
  · rw [listed]
    refine List.pairwise_append.mpr ⟨faithful.apart, List.pairwise_singleton _ _, ?_⟩
    intro known among other single
    rw [List.mem_singleton.mp single]
    exact (new known among).2

/-- What one call does to a faithful desk: it stays so, and its list grows by what was added. -/
structure Lists (before : Desk) (call : RegisterCall) (after : Desk) : Prop where
  faithful : after.Faithful
  grown : after.listed = before.listed ++ call.added?.toList
  reopened : ∀ answer, call = .reopen answer → answer = .ok ()

theorem Lists.same {call : RegisterCall} (faithful : before.Faithful)
    (listed : after.listed = before.listed) (file : after.file = before.file)
    (nothing : call.added? = none) (reopened : ∀ answer, call = .reopen answer → answer = .ok ()) :
    Lists before call after where
  faithful := faithful.same listed file
  grown := by
    rw [nothing, listed]
    exact (List.append_nil _).symm
  reopened := reopened

end Desk

namespace Outages

variable (outages : Outages) (path : String) {desk : Desk}

theorem add_lists (keeps : outages.KeepsFile) (faithful : desk.Faithful) (account : Account)
    (token : String) (rereads : account.server.Rereads) :
    let ended := ((outages.register path).add account token).run desk
    desk.Lists (.add account token ended.1) ended.2 := by
  intro ended
  cases answer : ended.1 with
  | error failure =>
    have same := outages.add_error path desk keeps account token failure answer
    refine .same faithful same.listed same.file rfl ?_
    intro _ other
    cases other
  | ok _ =>
    obtain ⟨admitted, _, _⟩ := (outages.add_eq_ok path desk account token).mp answer
    obtain ⟨_, listed, file, _⟩ := outages.add_ok path desk account token answer
    have new := ((admission_eq_ok desk.listed account).mp admitted).2
    refine ⟨faithful.grown account listed file new rereads, listed, ?_⟩
    intro _ other
    cases other

theorem setToken_same (desk : Desk) (id : AccountId) (token : String) :
    let after := (((outages.register path).setToken id token).run desk).2
    after.listed = desk.listed ∧ after.file = desk.file := by
  rw [run_setToken]
  split
  · cases outages.secrets desk.secretCalls <;> exact ⟨rfl, rfl⟩
  · exact ⟨rfl, rfl⟩

theorem token_same (desk : Desk) (id : AccountId) :
    let after := (((outages.register path).token id).run desk).2
    after.listed = desk.listed ∧ after.file = desk.file := by
  rw [run_token]
  cases outages.secrets desk.secretCalls <;> exact ⟨rfl, rfl⟩

/-- The register can be opened again at any time, and is then as it was. -/
theorem load_faithful (faithful : desk.Faithful) :
    (outages.register path).load.run desk = (.ok (), desk) := by
  rw [run_load, (desk.onFile_eq_ok path desk.listed).mpr faithful.holds]
  rfl

theorem perform_lists (keeps : outages.KeepsFile) (faithful : desk.Faithful) (op : RegisterOp)
    (rereads : ∀ account token, op = .add account token → account.server.Rereads) :
    desk.Lists (outages.perform path op desk).1 (outages.perform path op desk).2 := by
  cases op with
  | add account token =>
    exact outages.add_lists path keeps faithful account token (rereads account token rfl)
  | setToken id token =>
    have same := outages.setToken_same path desk id token
    exact .same faithful same.1 same.2 rfl fun _ other => by cases other
  | token id =>
    have same := outages.token_same path desk id
    exact .same faithful same.1 same.2 rfl fun _ other => by cases other
  | accounts => exact .same faithful rfl rfl rfl fun _ other => by cases other
  | reopen =>
    have loaded := outages.load_faithful path faithful
    unfold perform
    dsimp only
    rw [loaded]
    refine .same faithful rfl rfl rfl ?_
    intro answer same
    cases same
    rfl

/-! ## Whole runs -/

/-- What a register promises about its list, after the calls of a history. -/
structure KeepsListing (initial : List Account) (history : List RegisterCall) (desk : Desk) :
    Prop where
  /-- The file holds the list in memory, in its order. -/
  holds : desk.Holds desk.listed
  accounts : (outages.register path).accounts.run desk = (.ok desk.listed, desk)
  opens : (outages.register path).load.run desk = (.ok (), desk)
  opened : ∀ answer, .reopen answer ∈ history → answer = .ok ()
  distinct : desk.ids.Nodup
  apart : desk.listed.Pairwise fun account other => ¬account.Alike other
  grown : desk.listed = initial ++ history.filterMap RegisterCall.added?
  admits : ∀ account token, (((outages.register path).add account token).run desk).1 = .ok () ↔
    Login.Proper account.login ∧
      (∀ other ∈ desk.listed, other.id ≠ account.id ∧ ¬other.Alike account) ∧
      outages.secrets desk.secretCalls = none ∧ outages.saveFault (desk.saves + 1) = none

theorem performAll_lists (keeps : outages.KeepsFile) (faithful : desk.Faithful)
    (ops : List RegisterOp)
    (rereads : ∀ account token, .add account token ∈ ops → account.server.Rereads) :
    let ended := outages.performAll path ops desk
    ended.2.Faithful ∧ ended.2.listed = desk.listed ++ ended.1.filterMap RegisterCall.added? ∧
      ∀ answer, .reopen answer ∈ ended.1 → answer = .ok () := by
  induction ops generalizing desk with
  | nil =>
    refine ⟨faithful, (List.append_nil _).symm, ?_⟩
    intro answer member
    cases member
  | cons op ops ih =>
    have first := outages.perform_lists path keeps faithful op fun account token same =>
      rereads account token (same ▸ List.mem_cons_self)
    obtain ⟨later, grown, opened⟩ := ih first.faithful fun account token member =>
      rereads account token (List.mem_cons_of_mem op member)
    refine ⟨later, ?_, ?_⟩
    · refine grown.trans ?_
      rw [first.grown, List.append_assoc]
      exact congrArg _ (RegisterCall.added_cons _ _).symm
    · intro answer member
      rcases List.mem_cons.mp member with here | there
      · exact first.reopened answer here.symm
      · exact opened answer there

/-- A register that starts without a state file, or on one whose accounts differ in identifier and
identity, lists in every run exactly what its file holds. -/
theorem performAll_keepsListing (keeps : outages.KeepsFile) (before start : Desk)
    (started : (outages.register path).load.run before = (.ok (), start))
    (distinct : start.ids.Nodup)
    (apart : start.listed.Pairwise fun account other => ¬account.Alike other)
    (listed : ∀ account ∈ start.listed, account.server.Rereads) (ops : List RegisterOp)
    (added : ∀ account token, .add account token ∈ ops → account.server.Rereads) :
    outages.KeepsListing path start.listed (outages.performAll path ops start).1
      (outages.performAll path ops start).2 := by
  have faithful : start.Faithful := by
    refine ⟨?_, distinct, apart, listed⟩
    rw [run_load] at started
    cases found : before.onFile path with
    | error failure =>
      rw [found] at started
      cases started
    | ok accounts =>
      rw [found] at started
      cases started
      exact (before.onFile_eq_ok path accounts).mp found
  obtain ⟨later, grown, opened⟩ := outages.performAll_lists path keeps faithful ops added
  refine ⟨later.holds, outages.run_accounts path _, outages.load_faithful path later, opened,
    later.distinct, later.apart, grown, ?_⟩
  intro account token
  rw [add_eq_ok, admission_eq_ok, and_assoc]

end Outages

theorem performAll_keepsListing_of_closed :
    let start := Desk.closed.listing [.alice]
    let ops := [.add .bob "b", .setToken Account.alice.id "new", .add .bob "c", .reopen]
    Outages.passing.KeepsFile ∧
      (Outages.passing.register "accounts.toml").load.run .closed = (.ok (), start) ∧
      start.ids.Nodup ∧
      (start.listed.Pairwise fun account other => ¬account.Alike other) ∧
      (∀ account ∈ start.listed, account.server.Rereads) ∧
      (∀ account token, .add account token ∈ ops → account.server.Rereads) ∧
      Outages.passing.KeepsListing "accounts.toml" start.listed
        (Outages.passing.performAll "accounts.toml" ops start).1
        (Outages.passing.performAll "accounts.toml" ops start).2 := by
  intro start ops
  have rereads : ServerAddress.default.Rereads := by
    rfl
  have distinct : start.ids.Nodup := List.pairwise_singleton _ _
  have apart : start.listed.Pairwise fun account other => ¬account.Alike other :=
    List.pairwise_singleton _ _
  have listed : ∀ account ∈ start.listed, account.server.Rereads := by
    intro account member
    rw [List.mem_singleton.mp member]
    exact rereads
  have added : ∀ account token, .add account token ∈ ops → account.server.Rereads := by
    intro account token member
    simp only [ops, List.mem_cons, RegisterOp.add.injEq, reduceCtorEq, List.not_mem_nil,
      or_false, false_or] at member
    rcases member with ⟨rfl, _⟩ | ⟨rfl, _⟩
    · exact rereads
    · exact rereads
  exact ⟨Outages.passing_keepsFile, Desk.load_closed, distinct, apart, listed, added,
    Outages.passing.performAll_keepsListing "accounts.toml" Outages.passing_keepsFile .closed start
      Desk.load_closed distinct apart listed ops added⟩

end AccountKeeper
