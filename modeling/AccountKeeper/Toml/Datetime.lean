import AccountKeeper.Text.Pieces

/-!
# Dates and times

The four kinds of date and time that a configuration document may hold: a
date, a time of day, both, and both with an offset from universal time.
-/

set_option autoImplicit false

namespace AccountKeeper.Toml

structure Date where
  year : Nat
  month : Nat
  day : Nat
  deriving DecidableEq, Repr

structure Time where
  hour : Nat
  minute : Nat
  second : Nat
  nanosecond : Nat
  deriving DecidableEq, Repr

inductive Offset where
  | zulu
  | minutes (count : Int)
  deriving DecidableEq, Repr

structure Datetime where
  date : Option Date
  time : Option Time
  offset : Option Offset
  deriving DecidableEq, Repr

/-! ## Reading -/

/-- A reader takes a value from the front of a text and returns it with what follows. -/
abbrev Reader (α : Type) := List Char → Option (α × List Char)

namespace Datetime

def readDigits (count : Nat) : Reader Nat := fun text =>
  let digits := text.take count
  if digits.length = count ∧ digits.all Char.isDigit then
    some (digits.foldl (fun value d => value * 10 + (d.toNat - '0'.toNat)) 0, text.drop count)
  else none

def readBetween (count low high : Nat) : Reader Nat := fun text =>
  match readDigits count text with
  | some (value, rest) => if low ≤ value ∧ value ≤ high then some (value, rest) else none
  | none => none

def readMark (mark : Char) : Reader Unit
  | c :: rest => if c = mark then some ((), rest) else none
  | [] => none

def daysIn (year month : Nat) : Nat :=
  if month = 2 then
    if year % 4 = 0 ∧ (year % 100 ≠ 0 ∨ year % 400 = 0) then 29 else 28
  else if month = 4 ∨ month = 6 ∨ month = 9 ∨ month = 11 then 30
  else 31

def readDateAfter (year : Nat) : Reader Date := fun text => do
  let (month, rest) ← readBetween 2 1 12 text
  let (_, rest) ← readMark '-' rest
  let (day, rest) ← readBetween 2 1 31 rest
  if day ≤ daysIn year month then some (⟨year, month, day⟩, rest) else none

/-- Nine places of a fraction of a second; further digits are dropped. -/
def nanoseconds (digits : List Char) : Nat :=
  let kept := digits.take 9
  kept.foldl (fun value d => value * 10 + (d.toNat - '0'.toNat)) 0 * Nat.pow 10 (9 - kept.length)

def readTimeAfter (hour : Nat) : Reader Time := fun text => do
  let (minute, rest) ← readBetween 2 0 59 text
  let (_, rest) ← readMark ':' rest
  let (second, rest) ← readBetween 2 0 60 rest
  match rest with
  | '.' :: fraction =>
    let digits := fraction.takeWhile Char.isDigit
    if digits = [] then some (⟨hour, minute, second, 0⟩, rest)
    else some (⟨hour, minute, second, nanoseconds digits⟩, fraction.dropWhile Char.isDigit)
  | _ => some (⟨hour, minute, second, 0⟩, rest)

/-- Outcome of a reader that may find that its kind of text has begun but is malformed. -/
inductive Attempt (α : Type) where
  | absent
  | malformed
  | found (value : α) (rest : List Char)

def Attempt.begun {α : Type} : Option (α × List Char) → Attempt α
  | some (value, rest) => .found value rest
  | none => .malformed

/-- A time of day; two digits and a colon begin one. -/
def attemptTime (text : List Char) : Attempt Time :=
  match readBetween 2 0 23 text with
  | some (hour, ':' :: rest) => .begun (readTimeAfter hour rest)
  | _ => .absent

def attemptOffset : List Char → Attempt Offset
  | 'Z' :: rest => .found .zulu rest
  | 'z' :: rest => .found .zulu rest
  | sign :: rest =>
    if sign = '+' ∨ sign = '-' then
      .begun do
        let (hours, rest) ← readBetween 2 0 23 rest
        let (_, rest) ← readMark ':' rest
        let (minutes, rest) ← readBetween 2 0 59 rest
        let total : Int := hours * 60 + minutes
        some (.minutes (if sign = '-' then -total else total), rest)
    else .absent
  | [] => .absent

/-- A date or time; four digits and a hyphen, or two digits and a colon, begin one. -/
def attempt (text : List Char) : Attempt Datetime :=
  match readDigits 4 text with
  | some (year, '-' :: rest) =>
    match readDateAfter year rest with
    | none => .malformed
    | some (date, rest) =>
      let alone := Attempt.found ⟨some date, none, none⟩ rest
      match rest with
      | mark :: clock =>
        if mark = 'T' ∨ mark = 't' ∨ mark = ' ' then
          match attemptTime clock with
          | .absent => alone
          | .malformed => .malformed
          | .found time rest =>
            match attemptOffset rest with
            | .absent => .found ⟨some date, some time, none⟩ rest
            | .malformed => .malformed
            | .found offset rest => .found ⟨some date, some time, some offset⟩ rest
        else alone
      | [] => alone
  | _ =>
    match attemptTime text with
    | .absent => .absent
    | .malformed => .malformed
    | .found time rest => .found ⟨none, some time, none⟩ rest

/-! ## Texts that stand for dates and times

A date or time within a text is read more freely than one of a document: a day
has an hour 24, a date may have an offset without a time, and an offset may be
any number of hours and minutes up to a day.
-/

def readClock : Reader Time := fun text => do
  let (hour, rest) ← readBetween 2 0 24 text
  let (_, rest) ← readMark ':' rest
  readTimeAfter hour rest

def readClockAfterDate : Reader (Option Time)
  | mark :: rest =>
    if mark = 'T' ∨ mark = 't' ∨ mark = ' ' then
      (readClock rest).map fun (time, rest) => (some time, rest)
    else some (none, mark :: rest)
  | [] => some (none, [])

def dayMinutes : Nat := 1440

def wholeOffset : List Char → Option (Option Offset)
  | [] => some none
  | ['Z'] => some (some .zulu)
  | ['z'] => some (some .zulu)
  | sign :: rest => do
    let (hours, rest) ← readDigits 2 rest
    let (_, rest) ← readMark ':' rest
    let (minutes, rest) ← readDigits 2 rest
    let total := hours * 60 + minutes
    if rest ≠ [] ∨ dayMinutes < total then none
    else if sign = '+' then some (some (.minutes total))
    else if sign = '-' then some (some (.minutes (-total)))
    else none

def ofText? (text : String) : Option Datetime :=
  let characters := text.toList
  if characters[2]? = some ':' then do
    let (time, rest) ← readClock characters
    if rest = [] then some ⟨none, some time, none⟩ else none
  else do
    let (year, rest) ← readDigits 4 characters
    let (_, rest) ← readMark '-' rest
    let (date, rest) ← readDateAfter year rest
    let (time, rest) ← readClockAfterDate rest
    (wholeOffset rest).map fun offset => ⟨some date, time, offset⟩

/-! ## Writing -/

def padded (width n : Nat) : String :=
  let digits := Nat.toDigits 10 n
  String.ofList (List.replicate (width - digits.length) '0' ++ digits)

def dateText (date : Date) : String :=
  padded 4 date.year ++ "-" ++ padded 2 date.month ++ "-" ++ padded 2 date.day

/-- `hour:minute:second`, with a fraction that has no trailing zeros. -/
def timeText (time : Time) : String :=
  let clock := padded 2 time.hour ++ ":" ++ padded 2 time.minute ++ ":" ++ padded 2 time.second
  if time.nanosecond = 0 then clock
  else
    let places := (padded 9 time.nanosecond).toList
    clock ++ "." ++ String.ofList (places.reverse.dropWhile (· = '0')).reverse

def offsetText : Offset → String
  | .zulu => "Z"
  | .minutes count =>
    (if count < 0 then "-" else "+") ++ padded 2 (count.natAbs / 60) ++ ":" ++
      padded 2 (count.natAbs % 60)

def display (value : Datetime) : String :=
  (value.date.map dateText).getD "" ++
    (if value.date.isSome ∧ value.time.isSome then "T" else "") ++
    (value.time.map timeText).getD "" ++
    (value.offset.map offsetText).getD ""

end Datetime

end AccountKeeper.Toml
