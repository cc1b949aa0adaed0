import AccountKeeper.Text.Printable

/-!
# Quoted text

The form in which texts are shown to developers: between double quotes, with
escapes for the quote, the backslash and every character that would not be
visible by itself.  Records are shown with their fields on one line or, in the
wide form, one field per line.
-/

set_option autoImplicit false

namespace AccountKeeper.Text

def hexDigits (n : Nat) : List Char :=
  Nat.toDigits 16 n

def quoteChar (c : Char) : List Char :=
  match c with
  | '\x00' => ['\\', '0']
  | '\t' => ['\\', 't']
  | '\n' => ['\\', 'n']
  | '\r' => ['\\', 'r']
  | '"' => ['\\', '"']
  | '\\' => ['\\', '\\']
  | c =>
    if isPrintable c then [c]
    else ['\\', 'u', '{'] ++ hexDigits c.toNat ++ ['}']

def quoted (text : String) : String :=
  String.ofList ('"' :: text.toList.flatMap quoteChar ++ ['"'])

inductive Shown where
  | word (name : String)
  | plain (value : String)
  | optional (value : Option String)

namespace Shown

def inline : Shown → String
  | word name => name
  | plain value => quoted value
  | optional none => "None"
  | optional (some value) => "Some(" ++ quoted value ++ ")"

def wide : Shown → String
  | word name => name
  | plain value => quoted value
  | optional none => "None"
  | optional (some value) => "Some(\n        " ++ quoted value ++ ",\n    )"

end Shown

def showRecord (name : String) (fields : List (String × Shown)) : String :=
  let shown := fields.map fun (field, value) => field ++ ": " ++ value.inline
  name ++ " \x7b " ++ ", ".intercalate shown ++ " \x7d"

def showRecordWide (name : String) (fields : List (String × Shown)) : String :=
  name ++ " \x7b\n" ++
    String.join (fields.map fun (field, value) => "    " ++ field ++ ": " ++ value.wide ++ ",\n") ++
    "\x7d"

end AccountKeeper.Text
