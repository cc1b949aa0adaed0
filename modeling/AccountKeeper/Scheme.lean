/-!
# Schemes

The two schemes that an address on the web may have, with the port that each
of them means where none is written.
-/

set_option autoImplicit false

namespace AccountKeeper

inductive Scheme where
  | http
  | https
  deriving DecidableEq, Repr, Inhabited

namespace Scheme

def lead : Scheme → String
  | http => "http://"
  | https => "https://"

/-- The port that is meant where none is written. -/
def defaultPort : Scheme → Nat
  | http => 80
  | https => 443

end Scheme

end AccountKeeper
