import AccountKeeper.Files.Path

/-!
# The environment

Variables by name, and the home directory.
-/

set_option autoImplicit false

namespace AccountKeeper

structure Environment where
  bindings : List (String × String)
  systemHome : Option String
  deriving DecidableEq, Repr

namespace Environment

def get? (environment : Environment) (name : String) : Option String :=
  environment.bindings.lookup name

/-- The home directory: `HOME`, unless it is empty or absent. -/
def home? (environment : Environment) : Option String :=
  match environment.get? "HOME" with
  | some home => if home = "" then environment.systemHome else some home
  | none => environment.systemHome

/-- The directory of configuration files: `XDG_CONFIG_HOME` if absolute, else `.config` at home. -/
def configDirectory? (environment : Environment) : Option String :=
  let named := (environment.get? "XDG_CONFIG_HOME").filter Path.isAbsolute
  named.or (environment.home?.map fun home => Path.join home ".config")

def expand (environment : Environment) (path : String) : String :=
  Path.expandHome environment.home? path

end Environment

end AccountKeeper
