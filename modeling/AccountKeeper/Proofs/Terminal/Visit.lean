import AccountKeeper.Program
import AccountKeeper.Proofs.Terminal.Talk

/-!
# Visits to a terminal

A visit is a run of a migration at a terminal.  The stores of old and new
accounts, what the person types and what the servers answer are arbitrary.
Every check of a token is written down when it is made, and so is every account
that is handed to the store of accounts.
-/

set_option autoImplicit false

namespace AccountKeeper

structure Visit (τ : Type) where
  terminal : Terminal
  stores : τ
  checks : List Check := []
  /-- The accounts handed to the store, with their tokens, whether it takes them or not. -/
  handed : List (Account × String) := []
  draws : Nat := 0

/-- What the servers answer, given how many checks were made before. -/
abbrev Answers := Nat → ServerAddress → String → BackgroundTask (Except LookupFailure String)

/-- What a visit shows of itself to the person and to the servers. -/
structure Scene where
  attended : Bool
  pending : List Typed
  asked : List Question
  checks : List Check
  handed : List (Account × String)

/-- The scene after further questions and checks, with what is left of what is typed. -/
def Scene.turned (scene : Scene) (questions : List Question) (checks : List Check)
    (left : List Typed) : Scene :=
  { scene with
    asked := scene.asked ++ questions
    checks := scene.checks ++ checks
    pending := left }

theorem Scene.turned_nil (scene : Scene) : scene.turned [] [] scene.pending = scene := by
  simp [turned]

theorem Scene.turned_turned (scene : Scene) (questions later : List Question)
    (checks others : List Check) (kept left : List Typed) :
    (scene.turned questions checks kept).turned later others left =
      scene.turned (questions ++ later) (checks ++ others) left := by
  simp [turned]

namespace Visit

variable {τ : Type}

instance : Journal (Visit τ) where
  record entry visit := { visit with terminal := Journal.record entry visit.terminal }

def terminalPart : Part (Visit τ) Terminal where
  get visit := visit.terminal
  set terminal visit := { visit with terminal }

def storesPart : Part (Visit τ) τ where
  get visit := visit.stores
  set stores visit := { visit with stores }

def resolver (answers : Answers) : Resolver (Visit τ) where
  lookup server token := do
    let visit ← get
    let task := answers visit.checks.length server token
    let check : Check := ⟨server, token, task, visit.terminal.asked, visit.terminal.pending⟩
    set { visit with checks := visit.checks ++ [check] }
    return task

def accounts (store : AccountStore τ) : AccountStore (Visit τ) where
  list := storesPart.lift store.list
  add account token := do
    modify fun visit => { visit with handed := visit.handed ++ [(account, token)] }
    storesPart.lift (store.add account token)
  setToken id token := storesPart.lift (store.setToken id token)

def freshId (newId : Nat → AccountId) : StateM (Visit τ) AccountId := do
  let visit ← get
  set { visit with draws := visit.draws + 1 }
  return newId visit.draws

def migration (legacy : LegacyStore τ) (store : AccountStore τ) (answers : Answers)
    (newId : Nat → AccountId) : Migration (Visit τ) where
  legacy := ⟨legacy.settings.on storesPart, legacy.secrets.on storesPart⟩
  accounts := accounts store
  resolver := resolver answers
  freshId := freshId newId

def login (answers : Answers) : TerminalLogin (Visit τ) :=
  ⟨terminalPart, resolver answers⟩

def scene (visit : Visit τ) : Scene where
  attended := visit.terminal.attended
  pending := visit.terminal.pending
  asked := visit.terminal.asked
  checks := visit.checks
  handed := visit.handed

/-! ## What leaves the scene as it is -/

theorem scene_turns {before after : Terminal} {questions : List Question} {left : List Typed}
    (turns : before.Turns after questions left) (visit : Visit τ)
    (here : visit.terminal = before) :
    ({ visit with terminal := after } : Visit τ).scene = visit.scene.turned questions [] left := by
  subst here
  unfold scene Scene.turned
  rw [turns.attended, turns.asked, turns.pending, List.append_nil]

@[simp] theorem scene_record (entry : JournalEntry) (visit : Visit τ) :
    (Journal.record entry visit).scene = visit.scene := by
  have turns := (Terminal.Turns.refl visit.terminal).record entry
  exact (scene_turns turns visit rfl).trans visit.scene.turned_nil

@[simp] theorem scene_emit (visit : Visit τ) (piece : Output)
    (silent : ∀ question, piece ≠ .asks question) :
    ({ visit with terminal := visit.terminal.emit piece } : Visit τ).scene = visit.scene := by
  have turns := (Terminal.Turns.refl visit.terminal).emit silent
  exact (scene_turns turns visit rfl).trans visit.scene.turned_nil

@[simp] theorem scene_say (answers : Answers) (text : String) (visit : Visit τ) :
    (StateT.run ((login answers).say text) visit).2.scene = visit.scene :=
  scene_emit visit (.aside (text ++ "\n")) (by simp)

theorem scene_stop (cancelled : Bool) (visit : Visit τ) :
    (StateT.run ((Terminal.indicator.on terminalPart).stop cancelled) visit).2.scene =
      visit.scene :=
  scene_emit visit (.aside ((if cancelled then "cancelled" else "done") ++ "\n")) (by simp)

@[simp] theorem scene_stores {α : Type} (action : Action τ α) (visit : Visit τ) :
    ((storesPart.lift action).run visit).2.scene = visit.scene := rfl

/-! ## Checks -/

/-- A check is made and written down once, and comes to what its verdict says. -/
theorem run_validate (answers : Answers) (server : ServerAddress) (token : String)
    (visit : Visit τ) :
    let check : Check := ⟨server, token, answers visit.checks.length server token,
      visit.terminal.asked, visit.terminal.pending⟩
    let ended := StateT.run ((resolver answers).validate .interactive
      (Terminal.indicator.on terminalPart) server token) visit
    ended.1 = check.verdict ∧ ended.2.scene = visit.scene.turned [] [check] check.rest := by
  intro check ended
  let shown : Visit τ := { visit with
    terminal := visit.terminal.emit (.aside (validationTitle ++ "... (Ctrl-C to cancel) ")) }
  have asked : shown.terminal.asked = visit.terminal.asked :=
    (visit.terminal.asked_emit _).trans (List.append_nil _)
  let running : Visit τ := { shown with checks := visit.checks ++ [check] }
  have started : StateT.run ((resolver answers).lookup server token) shown =
      (check.task, running) := by
    have ran : StateT.run ((resolver answers).lookup server token) shown =
        (check.task, { shown with checks := visit.checks ++
          [⟨server, token, check.task, shown.terminal.asked, visit.terminal.pending⟩] }) := rfl
    rw [ran, asked]
  have moves := Terminal.run_moves running.terminal check.task.duration
  have lifted : StateT.run ((Terminal.indicator.on terminalPart).moves check.task.duration) running =
      ((StateT.run (Terminal.indicator.moves check.task.duration) running.terminal).1,
        { running with terminal :=
            (StateT.run (Terminal.indicator.moves check.task.duration) running.terminal).2 }) := rfl
  cases interrupted : check.interrupted with
  | true =>
    rw [moves.trans (if_pos interrupted)] at lifted
    have validated : ended = _ := (resolver answers).run_validate
      (Terminal.indicator.on terminalPart) server token visit shown running _ check.task _ rfl
      started lifted
    have verdict : check.verdict = .error .cancelled := if_pos interrupted
    have rest : check.rest = visit.terminal.pending.tail := if_pos interrupted
    rw [validated, verdict, rest]
    refine ⟨rfl, ?_⟩
    rw [if_pos (by rfl), scene_record, scene_stop]
    change Scene.mk _ _ shown.terminal.asked _ _ = _
    rw [asked, ← List.append_nil visit.terminal.asked]
    rfl
  | false =>
    rw [moves.trans (if_neg (Bool.eq_false_iff.mp interrupted))] at lifted
    have validated : ended = _ := (resolver answers).run_validate
      (Terminal.indicator.on terminalPart) server token visit shown running _ check.task _ rfl
      started lifted
    have verdict : check.verdict = LookupFailure.ofEnd server check.task.finish :=
      if_neg (Bool.eq_false_iff.mp interrupted)
    have rest : check.rest = visit.terminal.pending := if_neg (Bool.eq_false_iff.mp interrupted)
    rw [validated, verdict, rest]
    refine ⟨rfl, ?_⟩
    rw [if_neg (by simp [Wait.cancelledDuring]), scene_stop]
    change Scene.mk _ _ shown.terminal.asked _ _ = _
    rw [asked, ← List.append_nil visit.terminal.asked]
    rfl

/-! ## Login forms -/

/-- Tokens are checked in a talk; the limit on the number of checks is never reached. -/
theorem run_checkTokens (answers : Answers) (server : ServerAddress) (limit : Nat)
    (stored : Option String) (visit : Visit τ)
    (enough : visit.terminal.pending.length < limit) :
    let ended := StateT.run ((login answers).checkTokens server limit stored) visit
    ∃ questions checks left,
      Talk server visit.terminal.asked stored visit.terminal.pending questions checks ended.1 left ∧
        ended.2.scene = visit.scene.turned questions checks left := by
  induction limit generalizing stored visit with
  | zero => exact absurd enough (Nat.not_lt_zero _)
  | succ limit ih =>
    intro ended
    have talks := (login answers).run_nextToken stored visit
    rcases next : StateT.run ((login answers).nextToken stored) visit with ⟨came, asked⟩
    simp only [next] at talks
    obtain ⟨terminal, questions, left, asking, round, turns⟩ := talks
    have unchecked : asked.scene = visit.scene.turned questions [] left := by
      rw [asking]
      exact scene_turns turns visit rfl
    cases came with
    | none =>
      rw [show ended = _ from (login answers).run_checkTokens_none server limit next]
      exact ⟨questions, [], left, .ended round, unchecked⟩
    | some token =>
      have typed : left.length < visit.terminal.pending.length := round.shorter
      let check : Check := ⟨server, token, answers asked.checks.length server token,
        asked.terminal.asked, asked.terminal.pending⟩
      have time : check.asked = visit.terminal.asked ++ questions := congrArg Scene.asked unchecked
      have place : check.pending = left := congrArg Scene.pending unchecked
      have kept := check.rest_suffix.length_le
      rw [place] at kept
      rw [← place] at round
      have answered := run_validate answers server token asked
      rcases checked : StateT.run ((resolver answers).validate .interactive
        (Terminal.indicator.on terminalPart) server token) asked with ⟨verdict, after⟩
      simp only [checked] at answered
      obtain ⟨found, scene⟩ := answered
      rw [unchecked, Scene.turned_turned, List.append_nil] at scene
      cases verdict with
      | ok name =>
        rw [show ended = _ from (login answers).run_checkTokens_ok server limit next checked]
        exact ⟨questions, [check], check.rest, .accepted check name round rfl time found.symm, scene⟩
      | error failure =>
        let said := StateT.run ((login answers).say ("✗ " ++ TerminalLogin.complaint failure)) after
        have unchanged : said.2.scene = visit.scene.turned questions [check] check.rest :=
          (scene_say answers _ after).trans scene
        have asked' : said.2.terminal.asked = visit.terminal.asked ++ questions :=
          congrArg Scene.asked unchanged
        have pending' : said.2.terminal.pending = check.rest := congrArg Scene.pending unchanged
        have fewer : said.2.terminal.pending.length < limit := by
          rw [pending']
          omega
        obtain ⟨later, others, rest, talk, turned⟩ := ih none said.2 fewer
        rw [asked', pending'] at talk
        rw [unchanged, Scene.turned_turned] at turned
        rw [show ended = _ from (login answers).run_checkTokens_error server limit next checked]
        exact ⟨questions ++ later, check :: others, rest,
          .refused check failure round rfl time found.symm talk, turned⟩

end Visit

end AccountKeeper
