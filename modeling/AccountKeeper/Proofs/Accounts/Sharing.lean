import AccountKeeper.Proofs.Accounts.Listing

/-!
# Registers on one state file

Registers can be opened on the same state file.  Each keeps a list of its own,
writes all of it whenever it adds an account, and reads the file only when it is
opened.  So the file holds what the register that added last knows, and
`shared_file_lists_all_iff` says when that is everything.
-/

set_option autoImplicit false

namespace AccountKeeper

/-- Registers that share a desk but for the list in memory, of which each has its own. -/
structure Office (ι : Type) where
  desk : Desk
  lists : ι → List Account

theorem Desk.holds_congr {desk other : Desk} {accounts : List Account}
    (file : other.file = desk.file) : other.Holds accounts ↔ desk.Holds accounts := by
  unfold Desk.Holds
  rw [file]

namespace Outages

variable (outages : Outages) (path : String) {desk : Desk}

theorem perform_add (account : Account) (token : String) :
    outages.perform path (.add account token) desk =
      (.add account token (((outages.register path).add account token).run desk).1,
        (((outages.register path).add account token).run desk).2) := rfl

theorem perform_reopen :
    outages.perform path .reopen desk =
      (.reopen ((outages.register path).load.run desk).1,
        ((outages.register path).load.run desk).2) := rfl

/-- Without an addition the file stays, and so does the list of a register that is not opened
again. -/
theorem perform_quiet (keeps : outages.KeepsFile) (op : RegisterOp)
    (quiet : (outages.perform path op desk).1.added? = none) :
    (outages.perform path op desk).2.file = desk.file ∧
      (op ≠ .reopen → (outages.perform path op desk).2.listed = desk.listed) := by
  cases op with
  | add account token =>
    rw [perform_add] at quiet ⊢
    cases answer : (((outages.register path).add account token).run desk).1 with
    | ok _ =>
      rw [answer] at quiet
      cases quiet
    | error failure =>
      have same := outages.add_error path desk keeps account token failure answer
      exact ⟨same.file, fun _ => same.listed⟩
  | setToken id token =>
    have same := outages.setToken_same path desk id token
    exact ⟨same.2, fun _ => same.1⟩
  | token id =>
    have same := outages.token_same path desk id
    exact ⟨same.2, fun _ => same.1⟩
  | accounts => exact ⟨rfl, fun _ => rfl⟩
  | reopen =>
    refine ⟨?_, fun stays => absurd rfl stays⟩
    rw [perform_reopen, run_load]
    cases desk.onFile path <;> rfl

theorem perform_added (op : RegisterOp) {account : Account}
    (added : (outages.perform path op desk).1.added? = some account) :
    (∃ token, op = .add account token) ∧
      (outages.perform path op desk).2.listed = desk.listed ++ [account] ∧
      (outages.perform path op desk).2.file =
        some (AccountDocument.print (desk.listed ++ [account])).toUTF8 := by
  cases op with
  | add other token =>
    rw [perform_add] at added ⊢
    cases answer : (((outages.register path).add other token).run desk).1 with
    | ok _ =>
      rw [answer] at added
      obtain rfl : other = account := Option.some.inj added
      obtain ⟨_, listed, file, _⟩ := outages.add_ok path desk other token answer
      exact ⟨⟨token, rfl⟩, listed, listed ▸ file⟩
    | error failure =>
      rw [answer] at added
      cases added
  | setToken | token | accounts | reopen => cases added

end Outages

namespace Office

variable {ι : Type} [DecidableEq ι]

/-- The desk as one of the registers has it. -/
def seat (who : ι) : Part (Office ι) Desk where
  get office := office.desk.listing (office.lists who)
  set desk office :=
    { desk, lists := fun other => if other = who then desk.listed else office.lists other }

section Runs

variable (outages : Outages) (path : String)

def perform (who : ι) (op : RegisterOp) (office : Office ι) : RegisterCall × Office ι :=
  let (call, desk) := outages.perform path op ((seat who).get office)
  (call, (seat who).set desk office)

/-- Operations of the registers in any order. -/
def performAll : List (ι × RegisterOp) → Office ι → List (ι × RegisterCall) × Office ι
  | [], office => ([], office)
  | (who, op) :: ops, office =>
    let (call, next) := perform outages path who op office
    let (history, after) := performAll ops next
    ((who, call) :: history, after)

end Runs

omit [DecidableEq ι] in
/-- The accounts that were added, in their order, each with the register that added it. -/
def additions (history : List (ι × RegisterCall)) : List (ι × Account) :=
  history.filterMap fun (who, call) => call.added?.map fun account => (who, account)

def additionsBy (who : ι) (history : List (ι × RegisterCall)) : List Account :=
  ((additions history).filter fun addition => addition.1 = who).map (·.2)

section Histories

variable {history : List (ι × RegisterCall)} {who other : ι} {call : RegisterCall}
  {account : Account}

omit [DecidableEq ι] in
theorem additions_quiet (quiet : call.added? = none) :
    additions (history ++ [(who, call)]) = additions history := by
  simp [additions, quiet]

omit [DecidableEq ι] in
theorem additions_added (added : call.added? = some account) :
    additions (history ++ [(who, call)]) = additions history ++ [(who, account)] := by
  simp [additions, added]

theorem additionsBy_own (added : call.added? = some account) :
    additionsBy who (history ++ [(who, call)]) = additionsBy who history ++ [account] := by
  simp [additionsBy, additions_added added]

theorem additionsBy_other (differs : other ≠ who) :
    additionsBy who (history ++ [(other, call)]) = additionsBy who history := by
  cases added : call.added? with
  | none => rw [additionsBy, additions_quiet added, additionsBy]
  | some account => simp [additionsBy, additions_added added, differs]

theorem mem_additionsBy :
    account ∈ additionsBy who history ↔ (who, account) ∈ additions history := by
  simp [additionsBy]

end Histories

/-- A register lists what it found when it was opened and what it added since, and so does the
file, unless another register added an account last. -/
structure Follows (who : ι) (initial : List Account) (history : List (ι × RegisterCall))
    (office : Office ι) : Prop where
  listed : office.lists who = initial ++ additionsBy who history
  held : (∀ addition ∈ (additions history).getLast?, addition.1 = who) →
    office.desk.Holds (office.lists who)
  rereads : ∀ account ∈ office.lists who, account.server.Rereads

variable (outages : Outages) (path : String) {who : ι} {initial : List Account}
  {history : List (ι × RegisterCall)} {office : Office ι}

theorem perform_open (found : office.desk.onFile path = .ok initial) :
    perform outages path who .reopen office =
      (.reopen (.ok ()), (seat who).set (office.desk.listing initial) office) := by
  have loaded : (outages.register path).load.run ((seat who).get office) =
      (.ok (), office.desk.listing initial) := by
    rw [Outages.run_load, show ((seat who).get office).onFile path = .ok initial from found]
    rfl
  unfold perform
  rw [Outages.perform_reopen, loaded]

theorem Follows.of_opened (holds : office.desk.Holds initial)
    (rereads : ∀ account ∈ initial, account.server.Rereads) :
    Follows who initial [] ((seat who).set (office.desk.listing initial) office) := by
  have own : ((seat who).set (office.desk.listing initial) office).lists who = initial :=
    if_pos rfl
  refine ⟨?_, ?_, ?_⟩
  · rw [own]
    exact (List.append_nil _).symm
  · intro _
    rw [own]
    exact holds
  · rw [own]
    exact rereads

/-- What a register does itself while it stays open. -/
theorem perform_follows_own (keeps : outages.KeepsFile)
    (follows : Follows who initial history office) (op : RegisterOp) (stays : op ≠ .reopen)
    (rereads : ∀ account token, op = .add account token → account.server.Rereads) :
    let ended := perform outages path who op office
    Follows who initial (history ++ [(who, ended.1)]) ended.2 := by
  intro ended
  have own : ended.2.lists who = (outages.perform path op ((seat who).get office)).2.listed :=
    if_pos rfl
  cases added : ended.1.added? with
  | none =>
    obtain ⟨file, listed⟩ := outages.perform_quiet path keeps op added
    have same : ended.2.lists who = office.lists who := own.trans (listed stays)
    refine ⟨?_, ?_, ?_⟩
    · rw [same, additionsBy, additions_quiet added]
      exact follows.listed
    · intro last
      rw [additions_quiet added] at last
      rw [same]
      exact (Desk.holds_congr file).mpr (follows.held last)
    · rw [same]
      exact follows.rereads
  | some account =>
    obtain ⟨⟨token, given⟩, listed, file⟩ := outages.perform_added path op added
    have grown : ended.2.lists who = office.lists who ++ [account] := own.trans listed
    have servers : ∀ other ∈ ended.2.lists who, other.server.Rereads := by
      intro other member
      rw [grown] at member
      rcases List.mem_append.mp member with old | single
      · exact follows.rereads other old
      · rw [List.mem_singleton.mp single]
        exact rereads account token given
    refine ⟨?_, ?_, servers⟩
    · rw [grown, follows.listed, additionsBy_own added, List.append_assoc]
    · intro _
      refine .inr ⟨_, file.trans ?_, AccountDocument.read_print_of_rereads _ servers⟩
      rw [grown]
      rfl

/-- What the other registers do: they change the file only by adding an account. -/
theorem perform_follows_other (keeps : outages.KeepsFile)
    (follows : Follows who initial history office) (other : ι) (differs : other ≠ who)
    (op : RegisterOp) :
    let ended := perform outages path other op office
    Follows who initial (history ++ [(other, ended.1)]) ended.2 := by
  intro ended
  have same : ended.2.lists who = office.lists who := if_neg (Ne.symm differs)
  refine ⟨?_, ?_, ?_⟩
  · rw [same, additionsBy_other differs]
    exact follows.listed
  · intro last
    cases added : ended.1.added? with
    | none =>
      rw [additions_quiet added] at last
      rw [same]
      exact (Desk.holds_congr (outages.perform_quiet path keeps op added).1).mpr
        (follows.held last)
    | some account =>
      -- The file now holds the list of the other register, and nothing is promised of it.
      rw [additions_added added, List.getLast?_concat] at last
      exact absurd (last _ rfl) differs
  · rw [same]
    exact follows.rereads

theorem performAll_follows (keeps : outages.KeepsFile) (ops : List (ι × RegisterOp))
    (stays : (who, .reopen) ∉ ops)
    (rereads : ∀ account token, (who, .add account token) ∈ ops → account.server.Rereads)
    (follows : Follows who initial history office) :
    Follows who initial (history ++ (performAll outages path ops office).1)
      (performAll outages path ops office).2 := by
  -- Each operation adds its call at the end of the history, so the history is general.
  induction ops generalizing history office with
  | nil =>
    unfold performAll
    rw [List.append_nil]
    exact follows
  | cons first ops ih =>
    obtain ⟨other, op⟩ := first
    have next : Follows who initial
        (history ++ [(other, (perform outages path other op office).1)])
        (perform outages path other op office).2 := by
      by_cases own : other = who
      · subst own
        refine perform_follows_own outages path keeps follows op ?_ ?_
        · rintro rfl
          exact stays List.mem_cons_self
        · rintro account token rfl
          exact rereads account token List.mem_cons_self
      · exact perform_follows_other outages path keeps follows other own op
    have later := ih (fun member => stays (List.mem_cons_of_mem _ member))
      (fun account token member => rereads account token (List.mem_cons_of_mem _ member)) next
    rw [List.append_assoc, List.singleton_append] at later
    exact later

/-- A register that is opened after a run lists what the one that added last had found when it was
opened itself, and what that one added since.  So no account is lost if and only if that register
found or added each account that was added. -/
theorem shared_file_lists_all_iff (keeps : outages.KeepsFile) (before : Office ι) (who : ι)
    (initial : List Account) (found : before.desk.onFile path = .ok initial)
    (listed : ∀ account ∈ initial, account.server.Rereads) (ops : List (ι × RegisterOp))
    (stays : (who, .reopen) ∉ ops)
    (rereads : ∀ account token, (who, .add account token) ∈ ops → account.server.Rereads) :
    let opened := perform outages path who .reopen before
    let ended := performAll outages path ops opened.2
    (∀ addition ∈ (additions ended.1).getLast?, addition.1 = who) →
    let afterwards := (outages.register path).load.run ended.2.desk
    opened.1 = .reopen (.ok ()) ∧ afterwards.1 = .ok () ∧
      afterwards.2.listed = initial ++ additionsBy who ended.1 ∧
      ((∀ account, account ∈ initial ∨ (∃ other, (other, account) ∈ additions ended.1) →
          account ∈ afterwards.2.listed) ↔
        ∀ other account, (other, account) ∈ additions ended.1 →
          account ∈ initial ∨ (who, account) ∈ additions ended.1) := by
  intro opened ended last afterwards
  have opens : opened = _ := perform_open outages path found
  have start : Follows who initial [] opened.2 := by
    rw [opens]
    refine .of_opened ?_ listed
    exact (before.desk.onFile_eq_ok path initial).mp found
  have follows := performAll_follows outages path keeps ops stays rereads start
  rw [List.nil_append] at follows
  have reread : afterwards =
      (.ok (), ended.2.desk.listing (initial ++ additionsBy who ended.1)) := by
    have held := (ended.2.desk.onFile_eq_ok path _).mpr (follows.held last)
    rw [show afterwards = _ from outages.run_load path ended.2.desk, held, follows.listed]
  have lists : afterwards.2.listed = initial ++ additionsBy who ended.1 := by
    rw [reread]
    rfl
  refine ⟨by rw [opens], by rw [reread], lists, ?_⟩
  simp only [lists, List.mem_append, mem_additionsBy]
  constructor
  · intro kept other account added
    exact kept account (.inr ⟨other, added⟩)
  · rintro kept account (old | ⟨other, added⟩)
    · exact .inl old
    · exact kept other account added

/-- Two registers that nobody has opened yet, and no state file. -/
def vacant : Office Bool :=
  ⟨{}, fun _ => []⟩

/-- Both registers are opened, but only one of them adds accounts. -/
def oneWriter : List (Bool × RegisterOp) :=
  [(false, .reopen), (true, .add .alice "a"), (false, .accounts), (true, .add .bob "b")]

theorem shared_file_lists_all_iff_for_one_writer :
    let opened := perform .never "accounts.toml" true .reopen vacant
    let ended := performAll .never "accounts.toml" oneWriter opened.2
    let afterwards := (Outages.never.register "accounts.toml").load.run ended.2.desk
    vacant.desk.onFile "accounts.toml" = .ok [] ∧
      (∀ addition ∈ (additions ended.1).getLast?, addition.1 = true) ∧
      opened.1 = .reopen (.ok ()) ∧ afterwards.1 = .ok () ∧
      afterwards.2.listed = [] ++ additionsBy true ended.1 ∧
      ((∀ account, account ∈ [] ∨ (∃ other, (other, account) ∈ additions ended.1) →
          account ∈ afterwards.2.listed) ↔
        ∀ other account, (other, account) ∈ additions ended.1 →
          account ∈ [] ∨ (true, account) ∈ additions ended.1) := by
  have keeps : Outages.never.KeepsFile := by
    intro save fault failed
    have works : Outages.never.saveFault save = none := rfl
    rw [works] at failed
    cases failed
  have found : vacant.desk.onFile "accounts.toml" = .ok [] := rfl
  have listed : ∀ account ∈ ([] : List Account), account.server.Rereads := by
    intro account member
    cases member
  have stays : (true, RegisterOp.reopen) ∉ oneWriter := by
    simp [oneWriter]
  have rereads : ∀ account token, (true, .add account token) ∈ oneWriter →
      account.server.Rereads := by
    intro account token member
    simp only [oneWriter, List.mem_cons, Prod.mk.injEq, RegisterOp.add.injEq, reduceCtorEq,
      List.not_mem_nil, and_false, true_and, or_false, false_or] at member
    rcases member with ⟨rfl, _⟩ | ⟨rfl, _⟩
    · rfl
    · rfl
  have last : ∀ addition ∈ (additions (performAll .never "accounts.toml" oneWriter
      (perform .never "accounts.toml" true .reopen vacant).2).1).getLast?, addition.1 = true := by
    rw [show additions (performAll _ _ _ _).1 = [(true, .alice), (true, .bob)] from rfl]
    rintro addition ⟨⟩
    rfl
  exact ⟨found, last, shared_file_lists_all_iff .never "accounts.toml" keeps vacant true [] found
    listed oneWriter stays rereads last⟩

/-- Two registers add an account each; the list of the second is written over that of the first. -/
theorem addition_lost_to_other_register :
    let ops := [(false, .reopen), (true, .reopen), (false, .add .alice "a"), (true, .add .bob "b")]
    let ended := performAll .never "accounts.toml" ops vacant
    let afterwards := (Outages.never.register "accounts.toml").load.run ended.2.desk
    additions ended.1 = [(false, .alice), (true, .bob)] ∧
      afterwards.1 = .ok () ∧ Account.alice ∉ afterwards.2.listed := by
  intro ops ended afterwards
  have rereads : ∀ account ∈ [Account.bob], account.server.Rereads := by
    intro account member
    rw [List.mem_singleton.mp member]
    rfl
  have held : ended.2.desk.Holds [.bob] :=
    .inr ⟨AccountDocument.print [.bob], rfl, AccountDocument.read_print_of_rereads _ rereads⟩
  have reread : afterwards = (.ok (), ended.2.desk.listing [.bob]) := by
    rw [show afterwards = _ from Outages.never.run_load "accounts.toml" ended.2.desk,
      (ended.2.desk.onFile_eq_ok "accounts.toml" [.bob]).mpr held]
  refine ⟨rfl, by rw [reread], ?_⟩
  rw [reread]
  intro member
  have same : Account.alice = Account.bob := List.mem_singleton.mp member
  exact absurd (congrArg Account.login same) (by decide)

end Office

end AccountKeeper
