import AccountKeeper.Journal
import AccountKeeper.LogDirective
import AccountKeeper.Text.Pieces

/-!
# Which entries are written

A filter of the journal is a list of directives between commas.  Of the
directives about an entry, the most special one decides whether it is written.
-/

set_option autoImplicit false

namespace AccountKeeper

structure LogFilter where
  directives : List LogDirective
  deriving DecidableEq, Repr

namespace LogFilter

def written (text : String) : List (List Char) :=
  (Text.pieces ',' text.toList).filter (· ≠ [])

/-- The filter of some directives; without any, errors pass. -/
def ofDirectives (directives : List LogDirective) : LogFilter :=
  if directives = [] then ⟨[⟨none, none, [], 1⟩]⟩ else ⟨directives⟩

def parse? (text : String) : Option LogFilter :=
  ((written text).mapM fun piece => (LogDirective.read piece).toOption).map ofDirectives

def complaint? (piece : List Char) : Option String :=
  match LogDirective.read piece with
  | .ok _ => none
  | .error fault => some ("ignoring \x60" ++ String.ofList piece ++ "\x60: " ++ fault.message)

/-- The filter of the valid directives of a text, and what is said about the invalid ones. -/
def parseLossy (text : String) : LogFilter × List String :=
  (ofDirectives ((written text).filterMap fun piece => (LogDirective.read piece).toOption),
    (written text).filterMap complaint?)

def entryFields : List String := ["message"]

/-- The most special directive about entries of a target; of equal directives the last one. -/
def decisive? (filter : LogFilter) (target : String) : Option LogDirective :=
  (filter.directives.filter (·.isAbout target entryFields)).foldl (fun best directive =>
    if best.all fun other => other.yieldsTo directive then some directive else best) none

def rankOf (filter : LogFilter) (target : String) : Nat :=
  (filter.decisive? target).elim 0 (·.rank)

def passes (filter : LogFilter) (entry : JournalEntry) : Bool :=
  entry.level.rank ≤ filter.rankOf entry.topic.target

def silent : LogFilter := ⟨[]⟩

end LogFilter

end AccountKeeper
