import AccountKeeper.Text.Pieces

/-!
# Keys of secrets

Every secret is stored under a key.  Keys become parts of file names, so they
consist of ASCII letters, digits, `-`, `_` and `.`, and never hold two dots in
a row.
-/

set_option autoImplicit false

namespace AccountKeeper.SecretKey

inductive Fault where
  | empty
  | outsideAlphabet (key : String)
  deriving DecidableEq, Repr

def Fault.message : Fault → String
  | empty => "Secret key cannot be empty"
  | outsideAlphabet key =>
    "Invalid secret key '" ++ key ++ "'. Must be alphanumeric with '-', '_' or '.' only"

def isKeyChar (c : Char) : Bool :=
  c.isAlphanum || c = '-' || c = '_' || c = '.'

def check (key : String) : Except Fault Unit :=
  let text := key.toList
  if text = [] then .error .empty
  else if Text.hasInfix ['.', '.'] text || !text.all isKeyChar then .error (.outsideAlphabet key)
  else .ok ()

def Valid (key : String) : Prop :=
  (check key).isOk = true

instance (key : String) : Decidable (Valid key) :=
  inferInstanceAs (Decidable ((check key).isOk = true))

end AccountKeeper.SecretKey
