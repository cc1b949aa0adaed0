import AccountKeeper.Environment
import AccountKeeper.LogFilter
import AccountKeeper.LogFormat

/-!
# Logging

Which form the journal takes and which of its entries are written, as flags and
environment say.
-/

set_option autoImplicit false

namespace AccountKeeper

structure Logging where
  format : LogFormat
  level : String
  verbose : Bool
  deriving DecidableEq, Repr

namespace Logging

/-- The settings of the environment; a format given as a flag comes first. -/
def ofEnvironment (environment : Environment) (format : Option LogFormat) (verbose : Bool) :
    Logging where
  format :=
    (format.or ((environment.get? "GH_ACCOUNTS_LOG_FORMAT").bind LogFormat.parse?)).getD .text
  level := (environment.get? "GH_ACCOUNTS_LOG_LEVEL").getD "warn"
  verbose

def wantedLevel (logging : Logging) : String :=
  if logging.verbose then "debug" else logging.level

/--
The filter of the journal, and what is said about directives that were left out.  The variable
`RUST_LOG` comes first if all its directives are valid.
-/
def filter (logging : Logging) (environment : Environment) : LogFilter × List String :=
  match (environment.get? "RUST_LOG").bind LogFilter.parse? with
  | some filter => (filter, [])
  | none => LogFilter.parseLossy logging.wantedLevel

end Logging

end AccountKeeper
