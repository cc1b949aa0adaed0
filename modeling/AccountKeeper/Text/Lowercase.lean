import AccountKeeper.Text.Lowercase.Table

/-!
# Lower case

The full lower-case form of a text: every character is mapped on its own,
except that a capital sigma at the end of a word becomes the final sigma.
-/

set_option autoImplicit false

namespace AccountKeeper.Text

/-- The lower-case form of one character; `İ` has two characters. -/
def lowerChar (c : Char) : List Char :=
  if c.toNat < 0x80 then [c.toLower]
  else if c = 'İ' then ['i', '\u0307']
  else
    match interval? (fun run => (run.first, run.last)) lowercaseRuns c.toNat with
    | none => [c]
    | some run =>
      if (c.toNat - run.first) % run.step = 0 then
        [Char.ofNat ((c.toNat : Int) + run.offset).toNat]
      else [c]

/-- Whether the first character that is not case-ignorable is cased. -/
def meetsCased (text : List Char) : Bool :=
  match text.dropWhile caseIgnorable.contains with
  | [] => false
  | c :: _ => cased.contains c

/-- Lower case of the text after `before`, which is given in reverse. -/
def lowerAfter (before : List Char) : List Char → List Char
  | [] => []
  | c :: rest =>
    let mapped :=
      if c = 'Σ' then
        if meetsCased before && !meetsCased rest then ['ς'] else ['σ']
      else
        lowerChar c
    mapped ++ lowerAfter (c :: before) rest

def lowercase (text : List Char) : List Char :=
  lowerAfter [] text

def lower (text : String) : String :=
  String.ofList (lowercase text.toList)

end AccountKeeper.Text
