import AccountKeeper.Text.Alphanumeric
import AccountKeeper.Text.Blank

/-!
# Directives of log filters

A directive gives a level to the entries of some targets.  It is a level alone,
a target, or a target and a level with an equals sign between them.  After the
target brackets may hold the name of a span of work and, in braces, a field that
entries must have: `target[span{field=value}]=level`.
-/

set_option autoImplicit false

namespace AccountKeeper

/-- Lets the entries pass that it is about, up to a rank of levels. -/
structure LogDirective where
  /-- What targets must begin with; without it, all targets are meant. -/
  target : Option String
  span : Option String
  fields : List (String × Option String)
  /-- The greatest rank that passes; 0 lets nothing pass. -/
  rank : Nat
  deriving DecidableEq, Repr

namespace LogDirective

inductive Fault where
  | malformed
  | level
  deriving DecidableEq, Repr

def Fault.message : Fault → String
  | malformed => "invalid filter directive"
  | level =>
    "error parsing level filter: expected one of \"off\", \"error\", \"warn\", \"info\", " ++
      "\"debug\", \"trace\", or a number 0-5"

/-! ## Levels -/

def rankNames : List (String × Nat) :=
  [("", 1), ("off", 0), ("error", 1), ("warn", 2), ("info", 3), ("debug", 4), ("trace", 5)]

def greatestRank : Nat := 5

/-- The rank that a number writes, maybe after a plus sign and with leading zeros. -/
def numberedRank? (text : List Char) : Option Nat :=
  let digits := if text.head? = some '+' then text.drop 1 else text
  let value := digits.foldl (fun value d => value * 10 + (d.toNat - '0'.toNat)) 0
  if digits ≠ [] ∧ digits.all Char.isDigit ∧ value ≤ greatestRank then some value else none

def rank? (text : List Char) : Option Nat :=
  (numberedRank? text).or (rankNames.lookup (String.ofList (text.map Char.toLower)))

/-- The rank after an equals sign; nothing there lets everything pass. -/
def rankAfter (text : List Char) : Except Fault Nat :=
  if text = [] then .ok greatestRank else (rank? text).elim (.error .level) .ok

/-! ## Reading -/

/-- How far a directive has been read; the number is where the current part starts. -/
inductive Stage where
  | start
  | lead (start : Nat)
  | span (start : Nat)
  | field (start : Nat)
  | fieldsEnd
  | bracketEnd
  | level (start : Nat)
  deriving DecidableEq, Repr

def slice (text : List Char) (start stop : Nat) : List Char :=
  (text.drop start).take (stop - start)

def readField (text : List Char) : String × Option String :=
  let value := (text.dropWhile (· ≠ '=')).drop 1
  (String.ofList (text.takeWhile (· ≠ '=')),
    if text.contains '=' then some (String.ofList (value.takeWhile (· ≠ '='))) else none)

def isLeadChar (c : Char) : Bool :=
  c = '-' || c = ':' || c = '_' || Text.isAlphanumeric c

def step (text : List Char) (draft : LogDirective) (stage : Stage) (c : Char) (place : Nat) :
    Except Fault (LogDirective × Stage) :=
  match stage, c with
  | .start, '[' => .ok (draft, .span (place + 1))
  | .start, c => if isLeadChar c then .ok (draft, .lead place) else .error .malformed
  | .lead start, '=' =>
    .ok ({ draft with target := String.ofList (slice text start place) }, .level (place + 1))
  | .lead start, '[' =>
    .ok ({ draft with target := String.ofList (slice text start place) }, .span (place + 1))
  | .span start, ']' =>
    .ok ({ draft with span := String.ofList (slice text start place) }, .bracketEnd)
  | .span start, '\x7b' =>
    let name := slice text start place
    .ok ({ draft with span := if name = [] then none else some (String.ofList name) },
      .field (place + 1))
  | .field start, '\x7d' =>
    let field := slice text start place
    if field = [] then .error .malformed
    else .ok ({ draft with fields := draft.fields ++ [readField field] }, .fieldsEnd)
  | .fieldsEnd, ']' => .ok (draft, .bracketEnd)
  | .bracketEnd, '=' => .ok (draft, .level (place + 1))
  | .fieldsEnd, _ => .error .malformed
  | .bracketEnd, _ => .error .malformed
  | stage, _ => .ok (draft, stage)

def finish (text : List Char) (draft : LogDirective) : Stage → Except Fault LogDirective
  | .lead start =>
    match rank? (text.drop start) with
    | some rank => .ok { draft with rank }
    | none => .ok { draft with target := String.ofList (text.drop start) }
  | .level start => (rankAfter (text.drop start)).map fun rank => { draft with rank }
  | .bracketEnd => .ok draft
  | _ => .error .malformed

/--
Reads a directive.  Blanks at the ends do not count as characters to read, but
the parts are cut out of the text with its blanks, so that blanks in front shift
every part.
-/
def read (text : List Char) : Except Fault LogDirective := do
  let (draft, stage) ← (Text.trimBlanks text).zipIdx.foldlM
    (fun (draft, stage) (c, place) => step text draft stage c place)
    (⟨none, none, [], greatestRank⟩, .start)
  finish text draft stage

/-! ## Meaning -/

/-- Whether the directive says something about entries with the given target and fields that come
from no span of work.  A value of a field can only be known in a span. -/
def isAbout (directive : LogDirective) (target : String) (fields : List String) : Bool :=
  directive.span.isNone && directive.target.all (·.toList.isPrefixOf target.toList) &&
    directive.fields.all fun (name, value) => value.isNone && fields.contains name

/-- How special a directive is: the bytes of its target, if it has one, then its fields. -/
def specialty (directive : LogDirective) : Nat × Nat :=
  (directive.target.elim 0 (·.utf8ByteSize + 1), directive.fields.length)

def yieldsTo (first second : LogDirective) : Bool :=
  let (a, b) := first.specialty
  let (c, d) := second.specialty
  a < c || (a = c && b ≤ d)

end LogDirective

end AccountKeeper
