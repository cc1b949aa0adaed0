import AccountKeeper.LoginForm
import AccountKeeper.Validator

/-!
# Scripted collaborators

A resolver that answers from a table, a prompt that always answers the same and
an indicator on which the user cancels at a given time.  Each of them records
how it was used.
-/

set_option autoImplicit false

namespace AccountKeeper

structure ScriptedResolver where
  logins : List (String × String × String) := []
  failure : Option LookupFailure := none
  delay : Nat := 0
  lookups : Nat := 0
  deriving DecidableEq, Repr

namespace ScriptedResolver

/-- The answer to a lookup; of several entries the last one counts. -/
def answer (resolver : ScriptedResolver) (server : ServerAddress) (token : String) :
    Except LookupFailure String :=
  match resolver.failure with
  | some failure => .error failure
  | none =>
    let entry := resolver.logins.reverse.find? fun (name, secret, _) =>
      name = server.display ∧ secret = token
    match entry with
    | some (_, _, login) => .ok login
    | none => .error (.authentication "Bad credentials")

def resolver : Resolver ScriptedResolver where
  lookup server token := do
    let script ← get
    set { script with lookups := script.lookups + 1 }
    return ⟨.value (script.answer server token), script.delay⟩

end ScriptedResolver

structure ScriptedPrompt where
  answer : Option ConfirmedLogin := none
  requests : List LoginRequest := []
  deriving DecidableEq, Repr

def ScriptedPrompt.prompt : LoginPrompt ScriptedPrompt where
  ask request := do
    let script ← get
    set { script with requests := script.requests ++ [request] }
    return script.answer

inductive CancelTime where
  | never
  | onStart
  | after (milliseconds : Nat)
  deriving DecidableEq, Repr

structure ScriptedIndicator where
  cancels : CancelTime := .never
  titles : List String := []
  stops : Nat := 0
  deriving DecidableEq, Repr

namespace ScriptedIndicator

def movesOf (cancels : CancelTime) (duration : Nat) : List Move :=
  match cancels with
  | .never => [.taskEnds, .poll]
  | .onStart => [.userCancels, .poll]
  | .after milliseconds =>
    if duration < milliseconds then [.taskEnds, .poll] else [.userCancels, .poll]

def indicator : Indicator ScriptedIndicator where
  start title := modify fun script => { script with titles := script.titles ++ [title] }
  moves duration := return movesOf (← get).cancels duration
  stop _ := modify fun script => { script with stops := script.stops + 1 }

end ScriptedIndicator

end AccountKeeper
