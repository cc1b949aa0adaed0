import AccountKeeper.Text.Quoted
import AccountKeeper.Toml.Item

/-!
# Faults of configuration documents

A document is either no document at all, or it holds a value that does not have
the shape its reader expects.
-/

set_option autoImplicit false

namespace AccountKeeper.Toml

inductive Mismatch where
  | kind (found expected : String)
  | value (found expected : String)
  | length (found : Nat) (expected : String)
  | missingField (name : String)
  | unknownName (found : String) (known : List String)
  | noEntry
  | manyEntries
  | notEmpty (kind : String)
  | notTable (found : String)
  | notName
  | refused (reason : String)
  deriving DecidableEq, Repr

def choices (known : List String) : String :=
  ", ".intercalate (known.map fun name => "`" ++ name ++ "`")

def Mismatch.message : Mismatch → String
  | kind found expected => "invalid type: " ++ found ++ ", expected " ++ expected
  | value found expected => "invalid value: " ++ found ++ ", expected " ++ expected
  | length found expected => "invalid length " ++ Nat.repr found ++ ", expected " ++ expected
  | missingField name => "missing field `" ++ name ++ "`"
  | unknownName found [one, other] =>
    "unknown variant `" ++ found ++ "`, expected `" ++ one ++ "` or `" ++ other ++ "`"
  | unknownName found known =>
    "unknown variant `" ++ found ++ "`, expected one of " ++ choices known
  | noEntry => "wanted exactly 1 element, found 0 elements"
  | manyEntries => "wanted exactly 1 element, more than 1 element"
  | notEmpty what => "expected empty " ++ what
  | notTable found => "expected table, found " ++ found
  | notName => "wanted string or table"
  | refused reason => reason

inductive Fault where
  | notADocument
  | mismatch (cause : Mismatch)
  deriving DecidableEq, Repr

def Fault.message : Fault → String
  | notADocument => "TOML parse error"
  | mismatch cause => "TOML parse error: " ++ cause.message

def floatText : Binary64 → String
  | .nan => "NaN"
  | .infinity negative => if negative then "-inf" else "inf"
  | .finite negative mantissa exponent => Binary64.finiteText negative mantissa exponent

def Item.described : Item → String
  | .scalar (.string text) => "string " ++ Text.quoted text
  | .scalar (.integer value) => "integer `" ++ toString value ++ "`"
  | .scalar (.float value) => "floating point `" ++ floatText value ++ "`"
  | .scalar (.boolean value) => "boolean `" ++ (if value then "true" else "false") ++ "`"
  | .scalar (.datetime _) => "map"
  | .array _ => "sequence"
  | .tables _ => "sequence"
  | .table _ _ => "map"

def Scalar.kindName : Scalar → String
  | .string _ => "string"
  | .integer _ => "integer"
  | .float _ => "float"
  | .boolean _ => "boolean"
  | .datetime _ => "datetime"

end AccountKeeper.Toml
