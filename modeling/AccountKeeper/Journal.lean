import AccountKeeper.Action
import AccountKeeper.Failure

/-!
# The journal

What the program reports about its own work while it runs.  An entry has a
topic, a level and a message; a state that keeps entries is an instance of
`Journal`.
-/

set_option autoImplicit false

namespace AccountKeeper

inductive Level where
  | trace
  | debug
  | info
  | warn
  | error
  deriving DecidableEq, Repr

namespace Level

def name : Level → String
  | trace => "TRACE"
  | debug => "DEBUG"
  | info => "INFO"
  | warn => "WARN"
  | error => "ERROR"

/-- The rank of a level; the most important one has rank 1. -/
def rank : Level → Nat
  | error => 1
  | warn => 2
  | info => 3
  | debug => 4
  | trace => 5

end Level

inductive Topic where
  | accounts
  | config
  | credentials
  | identity
  | legacy
  | logging
  | migration
  | progress
  | reauth
  | command
  deriving DecidableEq, Repr

def Topic.target : Topic → String
  | accounts => "libghaccounts::accounts"
  | config => "libghaccounts::config"
  | credentials => "libghaccounts::credentials"
  | identity => "libghaccounts::identity"
  | legacy => "libghaccounts::legacy"
  | logging => "libghaccounts::logging"
  | migration => "libghaccounts::migration"
  | progress => "libghaccounts::progress"
  | reauth => "libghaccounts::reauth"
  | command => "gh_accounts"

structure JournalEntry where
  topic : Topic
  level : Level
  message : String
  deriving DecidableEq, Repr

class Journal (σ : Type) where
  record : JournalEntry → σ → σ

namespace Journal

variable {σ : Type} {m : Type → Type} [MonadState σ m] [Journal σ]

def note (topic : Topic) (level : Level) (message : String) : m PUnit :=
  modify (Journal.record ⟨topic, level, message⟩)

def debug (topic : Topic) (message : String) : m PUnit :=
  note topic .debug message

end Journal

abbrev Action (σ α : Type) := ActionE Failure σ α

end AccountKeeper
