import AccountKeeper.Program
import AccountKeeper.Proofs.Migration.Phases

/-!
# Talks about tokens

A talk is what happens between a login form and the person at the terminal.
In each round the person is asked for a token, and a token that comes out of
the round is checked with the server.  `Round` and `Talk` are the grammar of
these conversations; what a talk can come to follows from the grammar alone.
The equations of runs at a terminal stand at the end.
-/

set_option autoImplicit false

namespace AccountKeeper

/-- A check of a token: what the server is asked and answers, after which questions the check is
made, and what the person is going to do from then on. -/
structure Check where
  server : ServerAddress
  token : String
  task : BackgroundTask (Except LookupFailure String)
  asked : List Question
  pending : List Typed

namespace Check

/-- Whether the person interrupts the check; one that takes no time cannot be interrupted. -/
def interrupted (check : Check) : Bool :=
  check.pending.head? = some .lookupInterruption && 0 < check.task.duration

/-- What the check comes to; an interrupted one has no other answer. -/
def verdict (check : Check) : Except LookupFailure String :=
  if check.interrupted then .error .cancelled
  else LookupFailure.ofEnd check.server check.task.finish

/-- What the person is going to do after the check. -/
def rest (check : Check) : List Typed :=
  if check.interrupted then check.pending.tail else check.pending

theorem rest_suffix (check : Check) : check.rest <:+ check.pending := by
  unfold rest
  split
  · exact List.tail_suffix _
  · exact List.suffix_refl _

/-- The login that a check confirms. -/
def confirmed? (check : Check) : Option ConfirmedLogin :=
  match check.verdict with
  | .ok login => some ⟨login, check.server, check.token⟩
  | .error _ => none

variable {check : Check}

theorem confirmed?_of_ok {login : String} (found : check.verdict = .ok login) :
    check.confirmed? = some ⟨login, check.server, check.token⟩ := by
  unfold confirmed?
  rw [found]

theorem confirmed?_of_error {failure : LookupFailure} (failed : check.verdict = .error failure) :
    check.confirmed? = none := by
  unfold confirmed?
  rw [failed]

theorem confirmed?_eq_some {answer : ConfirmedLogin} (confirmed : check.confirmed? = some answer) :
    check.server = answer.server ∧ check.token = answer.token ∧
      check.verdict = .ok answer.login := by
  unfold confirmed? at confirmed
  split at confirmed
  · rename_i login found
    cases confirmed
    exact ⟨rfl, rfl, found⟩
  · cases confirmed

end Check

/-- A token that was typed: one of the lines without the blanks around it, and not empty. -/
def Entered (pending : List Typed) (token : String) : Prop :=
  token ≠ "" ∧ ∃ text, .line text ∈ pending ∧ Text.trim text = token

theorem Entered.mono {pending later : List Typed} {token : String} (entered : Entered later token)
    (suffix : later <:+ pending) : Entered pending token := by
  obtain ⟨nonempty, text, typed, same⟩ := entered
  exact ⟨nonempty, text, suffix.subset typed, same⟩

/-- A round for a stored token, if there is one: what is typed, the questions, the token that comes
out, and what is still to be typed. -/
inductive Round : Option String → List Typed → List Question → Option String → List Typed → Prop where
  | entered {text : String} {left : List Typed} (nonempty : Text.trim text ≠ "") :
      Round none (.line text :: left) [.token] (some (Text.trim text)) left
  | ended {pending left : List Typed} (suffix : left <:+ pending) :
      Round none pending [.token] none left
  | retried {token text : String} {left : List Typed}
      (agreed : Text.trim text = "y" ∨ Text.trim text = "Y") :
      Round (some token) (.line text :: left) [.retry] (some token) left
  | declined {token : String} {pending kept left : List Typed} {questions : List Question}
      {result : Option String} (suffix : kept <:+ pending)
      (instead : Round none kept questions result left) :
      Round (some token) pending (.retry :: questions) result left

/-- A talk: after the questions so far, with a stored token to offer and with what is typed, it
leads to questions, checks and an answer, and leaves the rest of what is typed. -/
inductive Talk (server : ServerAddress) : List Question → Option String → List Typed →
    List Question → List Check → Option ConfirmedLogin → List Typed → Prop where
  | ended {asked questions : List Question} {stored : Option String} {pending left : List Typed}
      (round : Round stored pending questions none left) :
      Talk server asked stored pending questions [] none left
  | accepted {asked questions : List Question} {stored : Option String} {pending : List Typed}
      (check : Check) (login : String)
      (round : Round stored pending questions (some check.token) check.pending)
      (place : check.server = server) (time : check.asked = asked ++ questions)
      (found : check.verdict = .ok login) :
      Talk server asked stored pending questions [check] (some ⟨login, server, check.token⟩)
        check.rest
  | refused {asked questions later : List Question} {stored : Option String}
      {pending left : List Typed} {checks : List Check} {confirmed : Option ConfirmedLogin}
      (check : Check) (failure : LookupFailure)
      (round : Round stored pending questions (some check.token) check.pending)
      (place : check.server = server) (time : check.asked = asked ++ questions)
      (failed : check.verdict = .error failure)
      (again : Talk server (asked ++ questions) none check.rest later checks confirmed left) :
      Talk server asked stored pending (questions ++ later) (check :: checks) confirmed left

/-! ## What a round can come to -/

namespace Round

variable {stored result : Option String} {pending left : List Typed} {questions : List Question}

theorem suffix (round : Round stored pending questions result left) : left <:+ pending := by
  induction round with
  | entered _ => exact List.suffix_cons _ _
  | ended suffix => exact suffix
  | retried _ => exact List.suffix_cons _ _
  | declined suffix _ ih => exact ih.trans suffix

theorem shorter {token : String} (round : Round stored pending questions (some token) left) :
    left.length < pending.length := by
  generalize outcome : some token = result at round
  induction round with
  | entered _ => exact Nat.lt_succ_self _
  | ended _ => cases outcome
  | retried _ => exact Nat.lt_succ_self _
  | declined suffix _ ih => exact Nat.lt_of_lt_of_le (ih outcome) suffix.length_le

theorem token_of {token : String} (round : Round stored pending questions (some token) left) :
    stored = some token ∨ Entered pending token := by
  obtain ⟨result, outcome⟩ : ∃ result, result = some token := ⟨_, rfl⟩
  rw [← outcome] at round
  induction round with
  | entered nonempty =>
    cases outcome
    exact .inr ⟨nonempty, _, List.mem_cons_self, rfl⟩
  | ended _ => cases outcome
  | retried _ => exact .inl outcome
  | declined suffix _ ih =>
    rcases ih outcome with unstored | entered
    · cases unstored
    · exact .inr (entered.mono suffix)

theorem retries (round : Round stored pending questions result left) :
    questions.count .retry = if stored.isSome then 1 else 0 := by
  induction round with
  | entered _ => rfl
  | ended _ => rfl
  | retried _ => rfl
  | declined _ _ ih =>
    rw [List.count_cons_self, ih]
    rfl

end Round

/-! ## What a talk can come to -/

namespace Talk

variable {server : ServerAddress} {asked questions : List Question} {stored : Option String}
  {pending left : List Typed} {checks : List Check} {confirmed : Option ConfirmedLogin}

theorem length_le (talk : Talk server asked stored pending questions checks confirmed left) :
    checks.length + left.length ≤ pending.length := by
  induction talk with
  | ended round =>
    have := round.suffix.length_le
    simpa using this
  | accepted check _ round _ _ _ =>
    have typed := round.shorter
    have kept := check.rest_suffix.length_le
    rw [List.length_singleton]
    omega
  | refused check _ round _ _ _ _ ih =>
    have typed := round.shorter
    have kept := check.rest_suffix.length_le
    rw [List.length_cons]
    omega

theorem origin (talk : Talk server asked stored pending questions checks confirmed left) :
    ∀ check ∈ checks, check.server = server ∧
      (stored = some check.token ∨ Entered pending check.token) := by
  induction talk with
  | ended _ =>
    intro check member
    cases member
  | accepted first _ round place _ _ =>
    intro check member
    rw [List.mem_singleton.mp member]
    exact ⟨place, round.token_of⟩
  | refused first _ round place _ _ _ ih =>
    intro check member
    rcases List.mem_cons.mp member with rfl | later
    · exact ⟨place, round.token_of⟩
    · obtain ⟨place', origin⟩ := ih check later
      refine ⟨place', .inr ?_⟩
      rcases origin with unstored | entered
      · cases unstored
      · exact entered.mono (first.rest_suffix.trans round.suffix)

theorem retries (talk : Talk server asked stored pending questions checks confirmed left) :
    questions.count .retry = if stored.isSome then 1 else 0 := by
  induction talk with
  | ended round => exact round.retries
  | accepted _ _ round _ _ _ => exact round.retries
  | refused _ _ round _ _ _ _ ih =>
    rw [List.count_append, round.retries, ih]
    rfl

/-- A login is the answer to the last check, under its token and on its server. -/
theorem vouched {answer : ConfirmedLogin}
    (talk : Talk server asked stored pending questions checks (some answer) left) :
    ∃ check, checks.getLast? = some check ∧ check.server = answer.server ∧
      check.token = answer.token ∧ check.verdict = .ok answer.login := by
  generalize outcome : some answer = confirmed at talk
  induction talk with
  | ended _ => cases outcome
  | accepted check login _ place _ found =>
    cases outcome
    exact ⟨check, rfl, place, rfl, found⟩
  | refused first _ _ _ _ _ _ ih =>
    obtain ⟨check, last, answers⟩ := ih outcome
    refine ⟨check, ?_, answers⟩
    rw [List.getLast?_cons, last]
    rfl

end Talk

/-! ## Rounds at a terminal -/

namespace Terminal

/-- A terminal after some questions, with what is left of what is typed. -/
structure Turns (before after : Terminal) (questions : List Question) (left : List Typed) :
    Prop where
  attended : after.attended = before.attended
  asked : after.asked = before.asked ++ questions
  pending : after.pending = left

theorem Turns.refl (terminal : Terminal) : terminal.Turns terminal [] terminal.pending :=
  ⟨rfl, (List.append_nil _).symm, rfl⟩

theorem Turns.trans {first second third : Terminal} {questions later : List Question}
    {kept left : List Typed} (before : first.Turns second questions kept)
    (after : second.Turns third later left) : first.Turns third (questions ++ later) left where
  attended := after.attended.trans before.attended
  asked := by rw [after.asked, before.asked, List.append_assoc]
  pending := after.pending

theorem asked_emit (terminal : Terminal) (piece : Output) :
    (terminal.emit piece).asked = terminal.asked ++
      match piece with
      | .asks question => [question]
      | _ => [] := by
  unfold asked emit
  rw [List.filterMap_append]
  cases piece <;> rfl

theorem Turns.emit {before after : Terminal} {questions : List Question} {left : List Typed}
    (turns : before.Turns after questions left) {piece : Output}
    (silent : ∀ question, piece ≠ .asks question) :
    before.Turns (after.emit piece) questions left where
  attended := turns.attended
  asked := by
    rw [asked_emit, ← turns.asked]
    cases piece with
    | asks question => exact absurd rfl (silent question)
    | result _ => exact List.append_nil _
    | aside _ => exact List.append_nil _
    | report _ => exact List.append_nil _
  pending := turns.pending

theorem Turns.record {before after : Terminal} {questions : List Question} {left : List Typed}
    (turns : before.Turns after questions left) (entry : JournalEntry) :
    before.Turns (Journal.record entry after) questions left := by
  change before.Turns (if after.filter.passes entry then after.emit (.report entry) else after)
    questions left
  split
  · exact turns.emit (by simp)
  · exact turns

/-- The answer to a question, given what is typed. -/
def answered (missing : Except String (Option String)) :
    List Typed → Except String (Option String)
  | .line text :: _ => .ok (some text)
  | .interruption :: _ => .ok none
  | .failure reason :: _ => .error reason
  | _ => missing

/-- What is typed after the answer to a question. -/
def unanswered : List Typed → List Typed
  | [] => []
  | .lookupInterruption :: left => .lookupInterruption :: left
  | _ :: left => left

theorem unanswered_suffix (pending : List Typed) : unanswered pending <:+ pending := by
  cases pending with
  | nil => exact List.suffix_refl _
  | cons typed left =>
    cases typed with
    | lookupInterruption => exact List.suffix_refl _
    | _ => exact List.suffix_cons _ _

theorem nextTyped_eq (terminal : Terminal) :
    nextTyped terminal = (terminal.pending.head?.filter (· ≠ .lookupInterruption),
      { terminal with pending := unanswered terminal.pending }) := by
  obtain ⟨attended, pending, output, filter⟩ := terminal
  cases pending with
  | nil => rfl
  | cons typed left => cases typed <;> rfl

theorem run_ask (question : Question) (missing : Except String (Option String))
    (terminal : Terminal) :
    let ended := StateT.run (ask question missing) terminal
    ended.1 = answered missing terminal.pending ∧
      terminal.Turns ended.2 [question] (unanswered terminal.pending) := by
  intro ended
  have asking : terminal.Turns
      { terminal.emit (.asks question) with pending := unanswered terminal.pending } [question]
      (unanswered terminal.pending) :=
    ⟨rfl, terminal.asked_emit (.asks question), rfl⟩
  have next := nextTyped_eq (terminal.emit (.asks question))
  simp only [ended, ask, StateT.run_bind, StateT.run_modify, pure_bind, StateT.run_modifyGet]
  rw [next, show (terminal.emit (.asks question)).pending = terminal.pending from rfl]
  generalize terminal.pending = pending at asking ⊢
  cases pending with
  | nil => exact ⟨rfl, asking⟩
  | cons first left =>
    cases first with
    | line text => exact ⟨rfl, asking⟩
    | failure reason => exact ⟨rfl, asking⟩
    | lookupInterruption => exact ⟨rfl, asking⟩
    | interruption => exact ⟨rfl, asking.emit (by simp)⟩

/-- A question for a token is a round without a stored one. -/
theorem run_askToken (terminal : Terminal) :
    let ended := StateT.run askToken terminal
    ∃ left, Round none terminal.pending [.token] ended.1 left ∧
      terminal.Turns ended.2 [.token] left := by
  intro ended
  obtain ⟨answer, turns⟩ := run_ask .token (.error endOfInput) terminal
  have stops : Round none terminal.pending [.token] none (unanswered terminal.pending) :=
    .ended (unanswered_suffix terminal.pending)
  refine ⟨unanswered terminal.pending, ?_⟩
  simp only [ended]
  unfold askToken
  rw [ActionE.run_state_bind, answer]
  generalize terminal.pending = pending at stops turns ⊢
  cases pending with
  | nil => exact ⟨stops, turns.emit (by simp)⟩
  | cons first left =>
    cases first with
    | interruption => exact ⟨stops, turns⟩
    | lookupInterruption => exact ⟨stops, turns.emit (by simp)⟩
    | failure reason => exact ⟨stops, turns.emit (by simp)⟩
    | line text =>
      by_cases empty : Text.trim text = ""
      · simp only [answered, empty]
        exact ⟨stops, turns⟩
      · simp only [answered, empty, if_false]
        exact ⟨.entered empty, turns⟩

theorem run_askRetry (terminal : Terminal) :
    let ended := StateT.run askRetry terminal
    terminal.Turns ended.2 [.retry] (unanswered terminal.pending) ∧
      (ended.1 = true → ∃ text, terminal.pending = .line text :: unanswered terminal.pending ∧
        (Text.trim text = "y" ∨ Text.trim text = "Y")) := by
  intro ended
  have hinted : terminal.Turns (terminal.emit (.aside "Retry the stored token? [y/N] ")) []
      terminal.pending := (Turns.refl terminal).emit (by simp)
  obtain ⟨answer, turns⟩ := run_ask .retry (.ok (some ""))
    (terminal.emit (.aside "Retry the stored token? [y/N] "))
  have asked := hinted.trans turns
  have aside_eq : StateT.run (aside "Retry the stored token? [y/N] ") terminal =
      ((), terminal.emit (.aside "Retry the stored token? [y/N] ")) := rfl
  rw [hinted.pending] at answer asked
  simp only [ended]
  unfold askRetry
  rw [ActionE.run_state_bind, aside_eq, ActionE.run_state_bind, answer]
  have silent : (decide (Text.trim "" = "y") || decide (Text.trim "" = "Y")) ≠ true := by decide
  generalize terminal.pending = pending at asked ⊢
  cases pending with
  | nil => exact ⟨asked, fun agreed => absurd agreed silent⟩
  | cons first left =>
    cases first with
    | interruption => exact ⟨asked, by rintro ⟨⟩⟩
    | lookupInterruption => exact ⟨asked, fun agreed => absurd agreed silent⟩
    | failure reason => exact ⟨asked, by rintro ⟨⟩⟩
    | line text =>
      refine ⟨asked, fun agreed => ⟨text, rfl, ?_⟩⟩
      have agreed' : (decide (Text.trim text = "y") || decide (Text.trim text = "Y")) = true :=
        agreed
      simpa using agreed'

/-- Only a lookup that takes time can be interrupted. -/
theorem run_moves (terminal : Terminal) (duration : Nat) :
    StateT.run (indicator.moves duration) terminal =
      if terminal.pending.head? = some .lookupInterruption && 0 < duration then
        ([.userCancels, .poll], { terminal with pending := terminal.pending.tail })
      else ([.taskEnds, .poll], terminal) := by
  obtain ⟨attended, pending, output, filter⟩ := terminal
  have ran : StateT.run (indicator.moves duration) ⟨attended, pending, output, filter⟩ =
      StateT.run (if (interrupts duration ⟨attended, pending, output, filter⟩).1 = true
          then return [.userCancels, .poll] else return [.taskEnds, .poll])
        (interrupts duration ⟨attended, pending, output, filter⟩).2 := rfl
  rw [ran]
  cases pending with
  | nil => rfl
  | cons typed left =>
    cases typed with
    | lookupInterruption =>
      by_cases long : 0 < duration
      · simp [interrupts, long]
        rfl
      · simp [interrupts, long]
        rfl
    | _ => rfl

end Terminal

namespace TerminalLogin

variable {σ : Type}

/-- The questions for the next token are a round. -/
theorem run_nextToken (login : TerminalLogin σ) (stored : Option String) (s : σ) :
    let before := login.terminal.get s
    let ended := StateT.run (login.nextToken stored) s
    ∃ after questions left, ended.2 = login.terminal.set after s ∧
      Round stored before.pending questions ended.1 left ∧
      before.Turns after questions left := by
  intro before ended
  cases stored with
  | none =>
    obtain ⟨left, round, turns⟩ := Terminal.run_askToken before
    exact ⟨_, _, left, rfl, round, turns⟩
  | some token =>
    obtain ⟨turns, agrees⟩ := Terminal.run_askRetry before
    let asked := StateT.run Terminal.askRetry before
    have ran : ended = ((StateT.run (if asked.1 = true then return some token
          else Terminal.askToken : StateM Terminal (Option String)) asked.2).1,
        login.terminal.set (StateT.run (if asked.1 = true then return some token
          else Terminal.askToken : StateM Terminal (Option String)) asked.2).2 s) := rfl
    rw [ran]
    by_cases agreed : asked.1 = true
    · obtain ⟨text, typed, yes⟩ := agrees agreed
      rw [if_pos agreed]
      refine ⟨asked.2, _, _, rfl, ?_, turns⟩
      rw [typed]
      exact .retried yes
    · rw [if_neg agreed]
      obtain ⟨left, round, turns'⟩ := Terminal.run_askToken asked.2
      rw [turns.pending] at round
      exact ⟨_, _, left, rfl, .declined (Terminal.unanswered_suffix _) round,
        turns.trans turns'⟩

theorem run_checkTokens_succ [Journal σ] (login : TerminalLogin σ) (server : ServerAddress)
    (limit : Nat) (stored : Option String) (s : σ) :
    StateT.run (login.checkTokens server (limit + 1) stored) s =
      let next := StateT.run (login.nextToken stored) s
      match next.1 with
      | none => (none, next.2)
      | some token =>
        let checked := StateT.run (login.resolver.validate .interactive
          (Terminal.indicator.on login.terminal) server token) next.2
        match checked.1 with
        | .ok name => (some ⟨name, server, token⟩, checked.2)
        | .error failure =>
          StateT.run (login.checkTokens server limit none)
            (StateT.run (login.say ("✗ " ++ complaint failure)) checked.2).2 := by
  simp only [checkTokens]
  rw [ActionE.run_state_bind]
  cases (StateT.run (login.nextToken stored) s).1 with
  | none => rfl
  | some token =>
    dsimp only
    rw [ActionE.run_state_bind]
    cases (StateT.run (login.resolver.validate _ _ server token) _).1 with
    | ok name => rfl
    | error failure => rfl

section Checks

variable [Journal σ] (login : TerminalLogin σ) (server : ServerAddress) (limit : Nat)
  {stored : Option String} {token : String} {s asked after : σ}

theorem run_checkTokens_none (next : StateT.run (login.nextToken stored) s = (none, asked)) :
    StateT.run (login.checkTokens server (limit + 1) stored) s = (none, asked) := by
  rw [run_checkTokens_succ, next]

theorem run_checkTokens_ok {name : String}
    (next : StateT.run (login.nextToken stored) s = (some token, asked))
    (checked : StateT.run (login.resolver.validate .interactive
      (Terminal.indicator.on login.terminal) server token) asked = (.ok name, after)) :
    StateT.run (login.checkTokens server (limit + 1) stored) s =
      (some ⟨name, server, token⟩, after) := by
  rw [run_checkTokens_succ, next]
  dsimp only
  rw [checked]

theorem run_checkTokens_error {failure : LookupFailure}
    (next : StateT.run (login.nextToken stored) s = (some token, asked))
    (checked : StateT.run (login.resolver.validate .interactive
      (Terminal.indicator.on login.terminal) server token) asked = (.error failure, after)) :
    StateT.run (login.checkTokens server (limit + 1) stored) s =
      StateT.run (login.checkTokens server limit none)
        (StateT.run (login.say ("✗ " ++ complaint failure)) after).2 := by
  rw [run_checkTokens_succ, next]
  dsimp only
  rw [checked]

end Checks

theorem run_ask [Journal σ] (login : TerminalLogin σ) (request : LoginRequest) (s : σ) :
    StateT.run (login.ask request) s =
      if (login.terminal.get s).attended then
        match ServerAddress.read request.server with
        | .error failure => (none, (StateT.run (login.say ("✗ " ++ failure.message)) s).2)
        | .ok server =>
          let shown := (StateT.run (login.introduce server request) s).2
          StateT.run (login.checkTokens server (checkLimit (login.terminal.get shown))
            (retryable request)) shown
      else
        (none, (StateT.run
          (login.say "Cannot ask for a GitHub token: stdin is not a terminal") s).2) := by
  unfold ask
  rw [ActionE.run_state_bind]
  rw [show StateT.run (login.terminal.look : StateM σ Terminal) s = (login.terminal.get s, s)
    from rfl]
  dsimp only
  cases (login.terminal.get s).attended with
  | false => rfl
  | true =>
    cases ServerAddress.read request.server with
    | error failure => rfl
    | ok server => rfl

end TerminalLogin

/-! ## Migrations at a terminal -/

/-- How a terminal asks and waits for a migration. -/
def Migration.atTerminal {σ : Type} [Journal σ] (migration : Migration σ)
    (terminal : Part σ Terminal) : Interaction σ where
  indicator := Terminal.indicator.on terminal
  prompt := TerminalLogin.prompt ⟨terminal, migration.resolver⟩

namespace Program

variable {σ : Type} [Journal σ] (program : Program σ) (installation : Installation σ) (s : σ)

/-- What is printed about the end of a migration, and the exit code. -/
def announce : Except Failure MigrationOutcome × σ → Except Failure Nat × σ
  | (.error failure, ended) => (.error failure, ended)
  | (.ok outcome, ended) =>
    if outcome.cancelled then (.ok 1, (StateT.run (program.say "Migration cancelled") ended).2)
    else (.ok 0, (StateT.run (program.print (outcomeLine outcome)) ended).2)

theorem run_migrate :
    (program.migrate installation).run s = program.announce ((installation.migration.run
      .interactive (installation.migration.atTerminal program.terminal)).run s) := by
  have asks : program.interaction installation =
      installation.migration.atTerminal program.terminal := rfl
  unfold migrate
  rw [ActionE.run_bind, asks]
  rcases (installation.migration.run .interactive
    (installation.migration.atTerminal program.terminal)).run s with ⟨answer, ended⟩
  cases answer with
  | error failure => rfl
  | ok outcome =>
    unfold announce
    dsimp only
    cases outcome.cancelled with
    | true => rfl
    | false => rfl

end Program

end AccountKeeper
