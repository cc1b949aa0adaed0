import AccountKeeper.Text.Lowercase

/-!
# Settings of the log

The form in which the journal is written, and which of its entries are.
-/

set_option autoImplicit false

namespace AccountKeeper

inductive LogFormat where
  | text
  | json
  | pretty
  deriving DecidableEq, Repr

namespace LogFormat

def name : LogFormat → String
  | text => "text"
  | json => "json"
  | pretty => "pretty"

def all : List LogFormat := [text, json, pretty]

def parse? (input : String) : Option LogFormat :=
  all.find? fun format => format.name = Text.lower input

def refusal (input : String) : String :=
  "Invalid log format: '" ++ input ++ "'. Valid options: text, json, pretty"

end LogFormat

end AccountKeeper
