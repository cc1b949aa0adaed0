import AccountKeeper.Logging
import AccountKeeper.Progress
import AccountKeeper.Text.Blank

/-!
# The terminal

Where the program talks to a person.  A terminal holds what the person is going
to do, and keeps what was printed, reported and asked, in this order.
-/

set_option autoImplicit false

namespace AccountKeeper

inductive Typed where
  | line (text : String)
  | interruption
  /-- Interrupts the next lookup that takes time; no question gets an answer before. -/
  | lookupInterruption
  | failure (reason : String)
  deriving DecidableEq, Repr

inductive Question where
  | token
  | retry
  | password
  deriving DecidableEq, Repr

def Question.hiddenPrompt : Question → String
  | token => "Personal access token (empty to cancel): "
  | retry => ""
  | password => "Enter master password for credential encryption: "

inductive Output where
  | result (text : String)
  | aside (text : String)
  | report (entry : JournalEntry)
  | asks (question : Question)
  deriving DecidableEq, Repr

/-- The output before the question after `answered` other ones, and that question. -/
def Output.untilQuestion (answered : Nat) : List Output → List Output × Option Question
  | [] => ([], none)
  | piece :: rest =>
    let later (answered : Nat) : List Output × Option Question :=
      let (before, next) := untilQuestion answered rest
      (piece :: before, next)
    match piece, answered with
    | .asks question, 0 => ([], some question)
    | .asks _, answered + 1 => later answered
    | _, answered => later answered

structure Terminal where
  attended : Bool := false
  pending : List Typed := []
  output : List Output := []
  filter : LogFilter := .silent
  deriving DecidableEq, Repr

namespace Terminal

def asked (terminal : Terminal) : List Question :=
  terminal.output.filterMap fun
    | .asks question => some question
    | _ => none

def emit (piece : Output) (terminal : Terminal) : Terminal :=
  { terminal with output := terminal.output ++ [piece] }

instance : Journal Terminal where
  record entry terminal :=
    if terminal.filter.passes entry then terminal.emit (.report entry) else terminal

def result (text : String) : StateM Terminal Unit := modify (emit (.result text))

def aside (text : String) : StateM Terminal Unit := modify (emit (.aside text))

def asideLine (text : String) : StateM Terminal Unit := aside (text ++ "\n")

/-! ## Questions -/

def endOfInput : String := "unexpected end of file"

def nextTyped (terminal : Terminal) : Option Typed × Terminal :=
  match terminal.pending with
  | [] => (none, terminal)
  | .lookupInterruption :: _ => (none, terminal)
  | typed :: rest => (some typed, { terminal with pending := rest })

/--
Asks a question and gives the line that was typed, or `none` after an
interruption.  Where nothing is typed, `missing` is the outcome.
-/
def ask (question : Question) (missing : Except String (Option String)) :
    StateM Terminal (Except String (Option String)) := do
  modify (emit (.asks question))
  match ← modifyGet nextTyped with
  | some (.line text) => return .ok (some text)
  | some (.failure reason) => return .error reason
  | some .interruption =>
    aside "\n(interrupted, press Enter) "
    return .ok none
  | _ => return missing

def askPassword : StateM Terminal (Option (Except String String)) := do
  if !(← get).attended then
    return none
  match ← ask .password (.error endOfInput) with
  | .ok (some text) => return some (.ok text)
  | .ok none => return some (.error endOfInput)
  | .error reason => return some (.error reason)

/-- Asks for a token; `none` if there is none to go on with. -/
def askToken : StateM Terminal (Option String) := do
  match ← ask .token (.error endOfInput) with
  | .ok (some text) =>
    let token := Text.trim text
    return if token = "" then none else some token
  | .ok none => return none
  | .error reason =>
    asideLine ("✗ Failed to read token: " ++ reason)
    return none

def askRetry : StateM Terminal Bool := do
  aside "Retry the stored token? [y/N] "
  match ← ask .retry (.ok (some "")) with
  | .ok (some text) =>
    let answer := Text.trim text
    return answer = "y" || answer = "Y"
  | _ => return false

/-! ## Progress -/

def interrupts (duration : Nat) (terminal : Terminal) : Bool × Terminal :=
  match terminal.pending with
  | .lookupInterruption :: rest =>
    if 0 < duration then (true, { terminal with pending := rest }) else (false, terminal)
  | _ => (false, terminal)

/-- A line that tells what is going on; an interruption cancels it. -/
def indicator : Indicator Terminal where
  start title := aside (title ++ "... (Ctrl-C to cancel) ")
  moves duration := do
    if ← modifyGet (interrupts duration) then
      return [.userCancels, .poll]
    else
      return [.taskEnds, .poll]
  stop cancelled := asideLine (if cancelled then "cancelled" else "done")

end Terminal

end AccountKeeper
