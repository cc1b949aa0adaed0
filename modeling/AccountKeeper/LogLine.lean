import AccountKeeper.Journal
import AccountKeeper.LogFormat

/-!
# Entries of the journal as lines

How an entry of the journal is written in each format of the log.
-/

set_option autoImplicit false

namespace AccountKeeper.LogLine

def jsonChar (c : Char) : List Char :=
  match c with
  | '"' => ['\\', '"']
  | '\\' => ['\\', '\\']
  | '\n' => ['\\', 'n']
  | '\r' => ['\\', 'r']
  | '\t' => ['\\', 't']
  | c =>
    if 0x20 ≤ c.toNat then [c]
    else
      let digits := Nat.toDigits 16 c.toNat
      ['\\', 'u'] ++ List.replicate (4 - digits.length) '0' ++ digits

def jsonText (text : String) : String :=
  String.ofList ('"' :: text.toList.flatMap jsonChar ++ ['"'])

def levelColumn (level : Level) : String :=
  String.ofList (List.replicate (5 - level.name.length) ' ') ++ level.name

def render (format : LogFormat) (entry : JournalEntry) : String :=
  match format with
  | .text => levelColumn entry.level ++ " " ++ entry.message ++ "\n"
  | .json =>
    "\x7b\"level\":" ++ jsonText entry.level.name ++ ",\"message\":" ++ jsonText entry.message ++
      ",\"target\":" ++ jsonText entry.topic.target ++ "\x7d\n"
  | .pretty =>
    "  " ++ levelColumn entry.level ++ " " ++ entry.topic.target ++ ": " ++ entry.message ++ "\n\n"

end AccountKeeper.LogLine
