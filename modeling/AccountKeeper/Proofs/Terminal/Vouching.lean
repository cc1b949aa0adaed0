import AccountKeeper.Proofs.Terminal.Visit

/-!
# Accounts that a server vouched for

Whatever is stored of a legacy account, whatever a person types and whatever
the servers answer: an account that a migration registers at a terminal has
the server of the legacy account, a token that was checked there, and the login
that the check reported.  `Vetted` says how decisions come about, `Visited` what
a run makes of them, and `migrate_vouched` what follows for the checks, the
questions and the accounts.
-/

set_option autoImplicit false

namespace AccountKeeper.Visit

variable {τ : Type}

/-! ## Login forms -/

theorem scene_introduce (answers : Answers) (server : ServerAddress) (request : LoginRequest)
    (visit : Visit τ) :
    (StateT.run ((login answers).introduce server request) visit).2.scene = visit.scene := by
  unfold TerminalLogin.introduce
  cases request.message <;> cases request.login <;> cases request.error <;>
    simp only [ActionE.run_state_bind, ActionE.run_state_pure, scene_say]

theorem run_ask (answers : Answers) (request : LoginRequest) (visit : Visit τ) :
    let ended := StateT.run ((login answers).ask request) visit
    (ended.1 = none ∧ ended.2.scene = visit.scene) ∨
      ∃ server questions checks left, ServerAddress.read request.server = .ok server ∧
        Talk server visit.terminal.asked (TerminalLogin.retryable request) visit.terminal.pending
          questions checks ended.1 left ∧
        ended.2.scene = visit.scene.turned questions checks left := by
  intro ended
  have ran : ended = _ := (login answers).run_ask request visit
  by_cases attended : ((login answers).terminal.get visit).attended = true
  · rw [ran, if_pos attended]
    cases address : ServerAddress.read request.server with
    | error failure => exact .inl ⟨rfl, scene_say answers _ visit⟩
    | ok server =>
      let shown := (StateT.run ((login answers).introduce server request) visit).2
      have unchanged : shown.scene = visit.scene := scene_introduce answers server request visit
      obtain ⟨questions, checks, left, talk, turned⟩ := run_checkTokens answers server
        (TerminalLogin.checkLimit shown.terminal) (TerminalLogin.retryable request) shown
        (Nat.lt_succ_self _)
      rw [show shown.terminal.asked = visit.terminal.asked from congrArg Scene.asked unchanged,
        show shown.terminal.pending = visit.terminal.pending from
          congrArg Scene.pending unchanged] at talk
      rw [unchanged] at turned
      exact .inr ⟨server, questions, checks, left, rfl, talk, turned⟩
  · rw [ran, if_neg attended]
    exact .inl ⟨rfl, scene_say answers _ visit⟩

def interaction (answers : Answers) : Interaction (Visit τ) where
  indicator := Terminal.indicator.on terminalPart
  prompt := TerminalLogin.prompt (login answers)

/-- A login form is left at once, or it leads to a talk on the server it is for. -/
theorem run_form (answers : Answers) (request : LoginRequest) (visit : Visit τ) :
    let ended := StateT.run ((interaction answers).prompt.decide request) visit
    (ended.1 = .cancelled ∧ ended.2.scene = visit.scene) ∨
      ∃ server questions checks confirmed left,
        ServerAddress.read request.server = .ok server ∧
        ended.1 = ConfirmedLogin.decision confirmed ∧
        Talk server visit.scene.asked (TerminalLogin.retryable request) visit.scene.pending
          questions checks confirmed left ∧
        ended.2.scene = visit.scene.turned questions checks left := by
  intro ended
  let begun : Visit τ := Journal.record
    ⟨.reauth, .debug, "Requesting credentials for " ++ request.server⟩ visit
  have unchanged : begun.scene = visit.scene := scene_record _ visit
  let asked := StateT.run ((login answers).ask request) begun
  have ran : ended = _ := (interaction answers).prompt.run_decide request visit
  have scene : ended.2.scene = asked.2.scene := by
    rw [ran]
    dsimp only
    split <;> exact scene_record _ _
  have decision : ended.1 = ConfirmedLogin.decision asked.1 := by
    rw [ran]
    rfl
  rw [scene, decision]
  rcases run_ask answers request begun with ⟨unanswered, left⟩ | ⟨server, questions, checks, left,
    place, talk, turned⟩
  · refine .inl ⟨?_, left.trans unchanged⟩
    rw [show asked.1 = none from unanswered]
    rfl
  · rw [unchanged] at turned
    rw [show begun.terminal.asked = visit.scene.asked from congrArg Scene.asked unchanged,
      show begun.terminal.pending = visit.scene.pending from
        congrArg Scene.pending unchanged] at talk
    exact .inr ⟨server, questions, checks, asked.1, left, place, rfl, talk, turned⟩

/-! ## Decisions -/

/-- The check that is made of a stored token before anybody is asked anything. -/
structure First (old : LegacyCredential) (before : Scene) (check : Check) : Prop where
  mode : old.authMode = .token
  secret : old.secret = some check.token
  place : ServerAddress.readHost old.host = .ok check.server
  asked : check.asked = before.asked
  pending : check.pending = before.pending

/-- The ways to a decision, with what they make of the scene. -/
inductive Vetted (old : LegacyCredential) (before : Scene) : Decision → Scene → Prop where
  | nobody {decision : Decision}
      (idle : ∀ login server token, decision ≠ .register login server token) :
      Vetted old before decision before
  | known (check : Check) (login : String) (first : First old before check)
      (found : check.verdict = .ok login) :
      Vetted old before (.register login check.server check.token)
        (before.turned [] [check] check.rest)
  | failed (check : Check) (failure : LookupFailure) (first : First old before check)
      (unknown : check.verdict = .error failure) :
      Vetted old before .cancelled (before.turned [] [check] check.rest)
  | retried {server : ServerAddress} {questions : List Question} {checks : List Check}
      {confirmed : Option ConfirmedLogin} {left : List Typed} (check : Check)
      (failure : LookupFailure) (first : First old before check)
      (unknown : check.verdict = .error failure)
      (place : ServerAddress.readHost old.host = .ok server)
      (talk : Talk server before.asked (some check.token) check.rest questions checks confirmed
        left) :
      Vetted old before (ConfirmedLogin.decision confirmed)
        (before.turned questions (check :: checks) left)
  | password {server : ServerAddress} {questions : List Question} {checks : List Check}
      {confirmed : Option ConfirmedLogin} {left : List Typed} (mode : old.authMode = .basic)
      (place : ServerAddress.readHost old.host = .ok server)
      (talk : Talk server before.asked none before.pending questions checks confirmed left) :
      Vetted old before (ConfirmedLogin.decision confirmed) (before.turned questions checks left)

section Deciding

variable (legacy : LegacyStore τ) (store : AccountStore τ) (answers : Answers)
  (newId : Nat → AccountId) (old : LegacyCredential) (visit : Visit τ)

theorem run_decideToken (token : String) (mode : old.authMode = .token)
    (secret : old.secret = some token) :
    let ended := StateT.run ((migration legacy store answers newId).decideToken
      (interaction answers) old.hostOrDefault token) visit
    Vetted old visit.scene ended.1 ended.2.scene := by
  intro ended
  let begun : Visit τ := Journal.record ⟨.migration, .debug, "Migrating token auth"⟩ visit
  have unchanged : begun.scene = visit.scene := scene_record _ visit
  cases address : ServerAddress.readHost (some old.hostOrDefault) with
  | error failure =>
    have resolved := (migration legacy store answers newId).run_resolve begun
      (interaction answers).indicator old.hostOrDefault token
    rw [address] at resolved
    rw [show ended = _ from Migration.run_decideToken_error resolved]
    rcases run_form answers (.afterFailedLookup old.hostOrDefault token
        (.invalidServer old.hostOrDefault)) _ with ⟨cancelled, left⟩ | ⟨server, _, _, _, _, place, _⟩
    · rw [cancelled, left, scene_record, scene_record, unchanged]
      exact .nobody (by simp)
    · cases place.symm.trans address
  | ok server =>
    let check : Check := ⟨server, token, answers begun.checks.length server token,
      begun.terminal.asked, begun.terminal.pending⟩
    have first : First old visit.scene check :=
      ⟨mode, secret, address, congrArg Scene.asked unchanged, congrArg Scene.pending unchanged⟩
    have answered := run_validate answers server token begun
    rcases checked : StateT.run ((resolver answers).validate .interactive
      (Terminal.indicator.on terminalPart) server token) begun with ⟨verdict, after⟩
    simp only [checked] at answered
    obtain ⟨found, scene⟩ := answered
    rw [unchanged] at scene
    have resolved := (migration legacy store answers newId).run_resolve_valid begun address checked
    cases verdict with
    | ok login =>
      rw [show ended = _ from Migration.run_decideToken_ok resolved, show after.scene = _ from scene]
      exact .known check login first found.symm
    | error failure =>
      let reported : Visit τ := Journal.record ⟨.migration, .debug,
        "Failed to migrate legacy token, asking the user: " ++ failure.message⟩ after
      have scene' : reported.scene = visit.scene.turned [] [check] check.rest :=
        (scene_record _ after).trans scene
      rw [show ended = _ from Migration.run_decideToken_error resolved]
      rcases run_form answers (.afterFailedLookup old.hostOrDefault token failure) reported with
        ⟨cancelled, left⟩ | ⟨server', questions, checks, confirmed, left, place, decided, talk,
          turned⟩
      · rw [cancelled, left, scene']
        exact .failed check failure first found.symm
      · rw [scene'] at talk turned
        rw [Scene.turned_turned] at turned
        rw [decided, turned]
        refine .retried check failure first found.symm place ?_
        have asked : (visit.scene.turned [] [check] check.rest).asked = visit.scene.asked :=
          List.append_nil _
        rw [asked] at talk
        exact talk

theorem run_decide :
    let ended := StateT.run ((migration legacy store answers newId).decide
      (interaction answers) old) visit
    Vetted old visit.scene ended.1 ended.2.scene := by
  intro ended
  cases mode : old.authMode with
  | none =>
    rw [show ended = _ from Migration.run_decide_none mode]
    exact .nobody (by simp)
  | basic =>
    let begun : Visit τ := Journal.record ⟨.migration, .debug, "Migrating basic auth"⟩ visit
    have unchanged : begun.scene = visit.scene := scene_record _ visit
    have form := run_form answers (.forPasswordAccount old.hostOrDefault old.login old.secret) begun
    rw [unchanged] at form
    rw [show ended = _ from Migration.run_decide_basic mode]
    rcases form with ⟨cancelled, left⟩ | ⟨server, questions, checks, confirmed, left, place, decided,
      talk, turned⟩
    · rw [cancelled, left]
      exact .nobody (by simp)
    · rw [decided, turned]
      exact .password mode place talk
  | token =>
    cases secret : old.secret with
    | none =>
      rw [show ended = _ from Migration.run_decide_no_token mode secret, scene_record]
      exact .nobody (by simp)
    | some token =>
      rw [show ended = _ from Migration.run_decide_token mode secret]
      exact run_decideToken legacy store answers newId old visit token mode secret

/-! ## Whole visits -/

/-- The ways through a migration, with what they make of the scene: an account is handed to the
store exactly where it was decided to register it. -/
inductive Visited (old : LegacyCredential) (before : Scene) : Scene → Prop where
  | kept {decision : Decision} {after : Scene} (vetted : Vetted old before decision after)
      (idle : ∀ login server token, decision ≠ .register login server token) :
      Visited old before after
  | handed {login token : String} {server : ServerAddress} {after : Scene} (id : AccountId)
      (vetted : Vetted old before (.register login server token) after) :
      Visited old before
        { after with handed := after.handed ++ [(⟨id, login, server⟩, token)] }

theorem Visited.idle (old : LegacyCredential) (before : Scene) : Visited old before before := by
  have idle : ∀ login server token,
      Decision.nothingToMigrate ≠ .register login server token := by simp
  exact .kept (.nobody idle) idle

theorem scene_register (login token : String) (server : ServerAddress) :
    ∃ id : AccountId,
      (((migration legacy store answers newId).register login server token).run visit).2.scene =
        { visit.scene with handed := visit.handed ++ [(⟨id, login, server⟩, token)] } := by
  refine ⟨newId visit.draws, ?_⟩
  rw [Migration.run_register]
  dsimp only
  split
  · rename_i failure tried adds
    have tried_eq := congrArg Prod.snd adds
    dsimp only at tried_eq
    rw [← tried_eq]
    rfl
  · rename_i added adds
    have added_eq := congrArg Prod.snd adds
    dsimp only at added_eq
    rw [scene_record, ← added_eq]
    rfl

/-- What is decided is carried out, and at most one account is handed over. -/
theorem scene_carryOut {before : Scene} (decision : Decision)
    (vetted : Vetted old before decision visit.scene) :
    Visited old before
      (((migration legacy store answers newId).carryOut decision).run visit).2.scene := by
  cases decision with
  | nothingToMigrate => exact .kept vetted (by simp)
  | cancelled => exact .kept vetted (by simp)
  | register login server token =>
    obtain ⟨id, scene⟩ := scene_register legacy store answers newId visit login token server
    change Visited old before
      (((migration legacy store answers newId).register login server token).run visit).2.scene
    rw [scene]
    exact .handed id vetted

theorem scene_settle :
    Visited old visit.scene (((migration legacy store answers newId).settle
      (interaction answers) old).run visit).2.scene := by
  rw [Migration.run_settle]
  split
  · rename_i failure listed lists
    have kept : visit.scene = listed.scene := congrArg (fun ended => ended.2.scene) lists
    rw [← kept]
    exact .idle old visit.scene
  · rename_i existing listed lists
    have kept : visit.scene = listed.scene := congrArg (fun ended => ended.2.scene) lists
    split
    · rw [kept]
      exact scene_carryOut legacy store answers newId old _ _
        (run_decide legacy store answers newId old listed)
    · rw [scene_record, ← kept]
      exact .idle old visit.scene

theorem scene_clear :
    ((migration legacy store answers newId).legacy.clear.run visit).2.scene = visit.scene := by
  rw [LegacyStore.run_clear]
  split
  · rename_i failure cleared clears
    exact (congrArg (fun ended => ended.2.scene) clears).symm
  · rename_i cleared clears
    have kept : visit.scene = cleared.scene := congrArg (fun ended => ended.2.scene) clears
    rw [kept]
    split
    · rename_i failure erased erases
      exact (congrArg (fun ended => ended.2.scene) erases).symm
    · rename_i erased erases
      rw [scene_record]
      exact (congrArg (fun ended => ended.2.scene) erases).symm

theorem scene_conclude (step : MigrationStep) :
    (((migration legacy store answers newId).conclude step).run visit).2.scene = visit.scene := by
  rw [Migration.run_conclude]
  split
  · rfl
  · exact scene_clear legacy store answers newId visit

theorem run_readSnapshot :
    (migration legacy store answers newId).legacy.readSnapshot.run visit =
      ((legacy.readSnapshot.run visit.stores).1,
        { visit with stores := (legacy.readSnapshot.run visit.stores).2 }) := by
  rw [LegacyStore.run_readSnapshot, LegacyStore.run_readSnapshot]
  have reads : (migration legacy store answers newId).legacy.settings.read.run visit =
      ((legacy.settings.read.run visit.stores).1,
        { visit with stores := (legacy.settings.read.run visit.stores).2 }) := rfl
  rw [reads]
  rcases legacy.settings.read.run visit.stores with ⟨answer, stores⟩
  cases answer with
  | error failure => rfl
  | ok settings => rfl

/-- What a migration makes of the scene hangs on the credential that it reads. -/
theorem scene_run :
    let after := (((migration legacy store answers newId).run .interactive
      (interaction answers)).run visit).2.scene
    match (legacy.readSnapshot.run visit.stores).1 with
    | .error _ => after = visit.scene
    | .ok old => Visited old visit.scene after := by
  intro after
  let begun : Visit τ := Journal.record ⟨.migration, .debug, "Migrating legacy auth"⟩ visit
  have unchanged : begun.scene = visit.scene := scene_record _ visit
  have ran : after = _ := congrArg (fun ended => ended.2.scene)
    ((migration legacy store answers newId).run_interactive (interaction answers) visit)
  have snapshot := run_readSnapshot legacy store answers newId begun
  simp only [begun] at snapshot
  rw [ran, snapshot]
  have same : (Journal.record ⟨.migration, .debug, "Migrating legacy auth"⟩ visit).stores =
    visit.stores := rfl
  rw [same]
  cases (legacy.readSnapshot.run visit.stores).1 with
  | error failure => exact unchanged
  | ok old =>
    let known : Visit τ := Journal.record
      ⟨.migration, .debug, "Legacy auth data: " ++ old.display⟩
      { begun with stores := (legacy.readSnapshot.run visit.stores).2 }
    have known_eq : known.scene = visit.scene := (scene_record _ _).trans unchanged
    change Visited old visit.scene (if old.hasAnyInfo = true then
      ((migration legacy store answers newId).settle (interaction answers) old >>=
        (migration legacy store answers newId).conclude).run known
      else (.ok {}, known)).2.scene
    split
    · have settled := scene_settle legacy store answers newId old known
      rw [known_eq] at settled
      rw [ActionE.run_bind]
      split
      · rename_i step after settles
        rw [settles] at settled
        rw [scene_conclude]
        exact settled
      · rename_i failure after settles
        rw [settles] at settled
        exact settled
    · rw [known_eq]
      exact .idle old visit.scene

end Deciding

/-! ## What a visit shows -/

/-- The last check is of the token, on the server, and reports the login. -/
def LastCheck (checks : List Check) (answer : ConfirmedLogin) : Prop :=
  ∃ check, checks.getLast? = some check ∧ check.server = answer.server ∧
    check.token = answer.token ∧ check.verdict = .ok answer.login

/-- The checks of a migration, those made silently and those made in answer to the person, with
the questions, and the login that is confirmed in the end. -/
structure Consulted (old : LegacyCredential) (before after : Scene) (silent prompted : List Check)
    (questions : List Question) (confirmed : Option ConfirmedLogin) : Prop where
  checks : after.checks = before.checks ++ (silent ++ prompted)
  asked : after.asked = before.asked ++ questions
  /-- Before any question at most one token is checked, the stored one of a token account. -/
  first : ∀ check ∈ silent, silent = [check] ∧ First old before check
  /-- Without a question the silent check confirms the login.  Questions are asked only where it
  failed; from then on each check follows one token that was typed or one retry that was agreed to,
  and the talk confirms the login. -/
  talk : prompted = [] ∧ questions = [] ∧ confirmed = silent.head?.bind Check.confirmed? ∨
    (∀ check ∈ silent, ∃ failure, check.verdict = .error failure) ∧
      ∃ server, ServerAddress.readHost old.host = .ok server ∧
        Talk server before.asked (silent.head?.map (·.token))
          ((silent.head?.map (·.rest)).getD before.pending) questions prompted confirmed
          after.pending
  bounded : prompted.length + after.pending.length ≤ before.pending.length
  /-- Tokens are checked on the server of the legacy account; they are stored or typed. -/
  origin : ∀ check ∈ silent ++ prompted, ServerAddress.readHost old.host = .ok check.server ∧
    (old.authMode = .token ∧ old.secret = some check.token ∨ Entered before.pending check.token)
  /-- A password that is stored is not a token, unless it is typed as one. -/
  password : old.authMode = .basic → ∀ check ∈ silent ++ prompted,
    Entered before.pending check.token
  /-- A stored token is offered for one retry at most, and only after its check has failed. -/
  retries : questions.count .retry ≤ 1
  retry : .retry ∈ questions → ∃ check failure, silent = [check] ∧ check.verdict = .error failure
  vouched : ∀ answer, confirmed = some answer →
    ServerAddress.readHost old.host = .ok answer.server ∧ LastCheck (silent ++ prompted) answer

/-- One account is handed to the store if a login is confirmed, and it is the account with this
login; otherwise none is. -/
structure Vouched (old : LegacyCredential) (before after : Scene) (silent prompted : List Check)
    (questions : List Question) (confirmed : Option ConfirmedLogin) : Prop
    extends Consulted old before after silent prompted questions confirmed where
  handed : match confirmed with
    | none => after.handed = before.handed
    | some answer => ∃ id, after.handed =
        before.handed ++ [(⟨id, answer.login, answer.server⟩, answer.token)]

section Consulted

variable {old : LegacyCredential} {before after : Scene} {silent prompted : List Check}
  (first : ∀ check ∈ silent, silent = [check] ∧ First old before check)

include first

theorem silent_cases : silent = [] ∨ ∃ check, silent = [check] ∧ First old before check := by
  cases silent with
  | nil => exact .inl rfl
  | cons check others =>
    exact .inr ⟨check, first check List.mem_cons_self⟩

theorem silent_suffix : (silent.head?.map (·.rest)).getD before.pending <:+ before.pending := by
  rcases silent_cases first with rfl | ⟨check, rfl, known⟩
  · exact List.suffix_refl _
  · rw [← known.pending]
    exact check.rest_suffix

theorem silent_origin :
    ∀ check ∈ silent, ServerAddress.readHost old.host = .ok check.server ∧
      (old.authMode = .token ∧ old.secret = some check.token ∨
        Entered before.pending check.token) := by
  intro check member
  obtain ⟨_, known⟩ := first check member
  exact ⟨known.place, .inl ⟨known.mode, known.secret⟩⟩

theorem silent_of_password (mode : old.authMode = .basic) : silent = [] := by
  rcases silent_cases first with unchecked | ⟨check, _, known⟩
  · exact unchecked
  · cases known.mode.symm.trans mode

theorem consulted_of_silence :
    Consulted old before
      (before.turned [] silent ((silent.head?.map (·.rest)).getD before.pending)) silent [] []
      (silent.head?.bind Check.confirmed?) where
  checks := by
    rw [List.append_nil]
    rfl
  asked := rfl
  first := first
  talk := .inl ⟨rfl, rfl, rfl⟩
  bounded := by
    rw [List.length_nil, Nat.zero_add]
    exact (silent_suffix first).length_le
  origin := by
    rw [List.append_nil]
    exact silent_origin first
  password := by
    intro mode
    rw [silent_of_password first mode]
    intro check member
    cases member
  retries := Nat.zero_le _
  retry := by
    intro member
    cases member
  vouched := by
    intro answer confirmed
    rcases silent_cases first with rfl | ⟨check, rfl, known⟩
    · cases confirmed
    · obtain ⟨server, token, found⟩ := Check.confirmed?_eq_some confirmed
      rw [← server]
      exact ⟨known.place, check, rfl, server, token, found⟩

theorem consulted_of_talk {server : ServerAddress} {questions : List Question}
    {confirmed : Option ConfirmedLogin} {left : List Typed}
    (failed : ∀ check ∈ silent, ∃ failure, check.verdict = .error failure)
    (place : ServerAddress.readHost old.host = .ok server)
    (talk : Talk server before.asked (silent.head?.map (·.token))
      ((silent.head?.map (·.rest)).getD before.pending) questions prompted confirmed left) :
    Consulted old before (before.turned questions (silent ++ prompted) left) silent prompted
      questions confirmed := by
  have suffix := silent_suffix first
  have offered : questions.count .retry = if silent = [] then 0 else 1 := by
    rw [talk.retries]
    cases silent <;> rfl
  have typed : ∀ check ∈ prompted,
      silent.head?.map (·.token) = some check.token ∨ Entered before.pending check.token := by
    intro check member
    obtain ⟨_, stored | entered⟩ := talk.origin check member
    · exact .inl stored
    · exact .inr (entered.mono suffix)
  have origin : ∀ check ∈ silent ++ prompted, ServerAddress.readHost old.host = .ok check.server ∧
      (old.authMode = .token ∧ old.secret = some check.token ∨
        Entered before.pending check.token) := by
    intro check member
    rcases List.mem_append.mp member with quiet | answer
    · exact silent_origin first check quiet
    · refine ⟨?_, ?_⟩
      · rw [(talk.origin check answer).1]
        exact place
      · rcases typed check answer with stored | entered
        · rcases silent_cases first with rfl | ⟨known, rfl, is⟩
          · cases stored
          · rw [← stored]
            exact .inl ⟨is.mode, is.secret⟩
        · exact .inr entered
  refine ⟨rfl, rfl, first, .inr ⟨failed, server, place, talk⟩, ?_, origin, ?_, ?_, ?_, ?_⟩
  · exact Nat.le_trans talk.length_le suffix.length_le
  · intro mode check member
    obtain rfl := silent_of_password first mode
    rcases typed check member with stored | entered
    · cases stored
    · exact entered
  · rw [offered]
    split <;> decide
  · intro retried
    rcases silent_cases first with rfl | ⟨check, rfl, _⟩
    · rw [← List.count_pos_iff, offered] at retried
      exact absurd retried (by decide)
    · obtain ⟨failure, unknown⟩ := failed check List.mem_cons_self
      exact ⟨check, failure, rfl, unknown⟩
  · rintro answer rfl
    obtain ⟨check, last, server, token, found⟩ := talk.vouched
    have last : (silent ++ prompted).getLast? = some check := by
      rw [List.getLast?_append, last]
      rfl
    rw [← server]
    exact ⟨(origin check (List.mem_of_getLast? last)).1, check, last, server, token, found⟩

end Consulted

theorem decision_eq_register_iff (confirmed : Option ConfirmedLogin) {login token : String}
    {server : ServerAddress} :
    ConfirmedLogin.decision confirmed = .register login server token ↔
      confirmed = some ⟨login, server, token⟩ := by
  cases confirmed with
  | none => simp [ConfirmedLogin.decision]
  | some answer =>
    cases answer
    simp [ConfirmedLogin.decision]

variable {old : LegacyCredential} {before after : Scene}

/-- It is decided to register an account exactly where its login is confirmed. -/
theorem Vetted.consulted {decision : Decision} (vetted : Vetted old before decision after) :
    ∃ silent prompted questions confirmed,
      Consulted old before after silent prompted questions confirmed ∧
        ∀ login server token, decision = .register login server token ↔
          confirmed = some ⟨login, server, token⟩ := by
  have known : ∀ check, First old before check →
      ∀ other ∈ [check], [check] = [other] ∧ First old before other := by
    intro check first other member
    rw [List.mem_singleton.mp member]
    exact ⟨rfl, first⟩
  cases vetted with
  | nobody idle =>
    have consulted : Consulted old before (before.turned [] [] before.pending) [] [] [] none :=
      consulted_of_silence (by simp)
    rw [before.turned_nil] at consulted
    exact ⟨[], [], [], none, consulted, fun login server token =>
      ⟨fun same => absurd same (idle _ _ _), by rintro ⟨⟩⟩⟩
  | known check login first found =>
    refine ⟨[check], [], [], _, consulted_of_silence (known check first), ?_⟩
    intro login' server token
    rw [List.head?_cons, Option.bind_some, Check.confirmed?_of_ok found]
    exact decision_eq_register_iff (some ⟨login, check.server, check.token⟩)
  | failed check failure first unknown =>
    refine ⟨[check], [], [], _, consulted_of_silence (known check first), ?_⟩
    intro login server token
    rw [List.head?_cons, Option.bind_some, Check.confirmed?_of_error unknown]
    exact decision_eq_register_iff none
  | retried check failure first unknown place talk =>
    refine ⟨[check], _, _, _, consulted_of_talk (known check first) ?_ place talk, ?_⟩
    · intro other member
      rw [List.mem_singleton.mp member]
      exact ⟨failure, unknown⟩
    · intro login server token
      exact decision_eq_register_iff _
  | password mode place talk =>
    have unasked : ∀ check ∈ ([] : List Check), [] = [check] ∧ First old before check := by simp
    refine ⟨[], _, _, _, consulted_of_talk unasked (by simp) place talk, ?_⟩
    intro login server token
    exact decision_eq_register_iff _

theorem Vetted.handed {decision : Decision} (vetted : Vetted old before decision after) :
    after.handed = before.handed := by
  cases vetted <;> rfl

theorem Visited.vouched (visited : Visited old before after) :
    ∃ silent prompted questions confirmed,
      Vouched old before after silent prompted questions confirmed := by
  cases visited with
  | kept vetted idle =>
    obtain ⟨silent, prompted, questions, confirmed, consulted, decided⟩ := vetted.consulted
    refine ⟨silent, prompted, questions, confirmed, consulted, ?_⟩
    cases confirmed with
    | none => exact vetted.handed
    | some answer => exact absurd ((decided _ _ _).mpr rfl) (idle _ _ _)
  | handed id vetted =>
    rename_i login token server scene
    obtain ⟨silent, prompted, questions, confirmed, consulted, decided⟩ := vetted.consulted
    obtain rfl : confirmed = some ⟨login, server, token⟩ := (decided _ _ _).mp rfl
    refine ⟨silent, prompted, questions, _, { consulted with handed := ⟨id, ?_⟩ }⟩
    rw [← vetted.handed]

theorem scene_migrate (program : Program (Visit τ)) (installation : Installation (Visit τ))
    (visit : Visit τ) :
    (({ program with terminal := terminalPart }.migrate installation).run visit).2.scene =
      ((installation.migration.run .interactive
        (installation.migration.atTerminal terminalPart)).run visit).2.scene := by
  rw [Program.run_migrate]
  rcases (installation.migration.run .interactive
    (installation.migration.atTerminal terminalPart)).run visit with ⟨answer, ended⟩
  cases answer with
  | error failure => rfl
  | ok outcome =>
    unfold Program.announce
    dsimp only
    cases outcome.cancelled with
    | true => exact scene_emit ended (.aside _) (by simp)
    | false => exact scene_emit ended (.result _) (by simp)

/-- However a migration goes at a terminal: every token that is checked is stored or typed, and an
account is handed to the store exactly where the last check has confirmed its login. -/
theorem migrate_vouched (program : Program (Visit τ)) (legacy : LegacyStore τ)
    (store : AccountStore τ) (answers : Answers) (newId : Nat → AccountId)
    (register : AccountRegister (Visit τ)) (terminal : Terminal) (stores : τ) :
    let before : Visit τ := { terminal, stores }
    let after := (({ program with terminal := terminalPart }.migrate
      ⟨migration legacy store answers newId, register⟩).run before).2
    match (legacy.readSnapshot.run stores).1 with
    | .error _ => after.scene = before.scene
    | .ok old => ∃ silent prompted questions confirmed,
        Vouched old before.scene after.scene silent prompted questions confirmed := by
  intro before after
  have ended := scene_run legacy store answers newId before
  have scene : after.scene = (((migration legacy store answers newId).run .interactive
      (interaction answers)).run before).2.scene :=
    scene_migrate program ⟨migration legacy store answers newId, register⟩ before
  rw [scene]
  dsimp only at ended
  have stores_eq : before.stores = stores := rfl
  rw [stores_eq] at ended
  cases snapshot : (legacy.readSnapshot.run stores).1 with
  | error failure =>
    rw [snapshot] at ended
    exact ended
  | ok old =>
    rw [snapshot] at ended
    exact ended.vouched

end AccountKeeper.Visit
