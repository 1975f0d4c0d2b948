import Foragers.Document.Character
import Foragers.Text.Numeral

namespace Foragers.Document

/-! Dates and times of day, as they are written in scalars. -/

/-- The zone of a time: its distance from universal time in minutes. -/
structure Zone where
  minutes : Int
  deriving DecidableEq, Repr

structure TimeOfDay where
  hour : Nat
  minute : Nat
  second : Nat
  microsecond : Nat
  zone : Option Zone
  deriving DecidableEq, Repr

structure Timestamp where
  year : Nat
  month : Nat
  day : Nat
  time : Option TimeOfDay
  deriving DecidableEq, Repr

def padded (width number : Nat) : String :=
  String.ofList (Text.paddedDigits 10 width number)

def Zone.text (zone : Zone) : String :=
  let distance := zone.minutes.natAbs
  (if zone.minutes < 0 then "-" else "+") ++ padded 2 (distance / 60) ++ ":" ++
    padded 2 (distance % 60)

def TimeOfDay.text (time : TimeOfDay) : String :=
  padded 2 time.hour ++ ":" ++ padded 2 time.minute ++ ":" ++ padded 2 time.second ++
    (if time.microsecond = 0 then "" else "." ++ padded 6 time.microsecond) ++
    time.zone.elim "" Zone.text

namespace Timestamp

def isLeap (year : Nat) : Bool :=
  year % 4 = 0 && (year % 100 ≠ 0 || year % 400 = 0)

def daysIn (year : Nat) : Nat → Nat
  | 2 => if isLeap year then 29 else 28
  | 4 | 6 | 9 | 11 => 30
  | _ => 31

/-- Whether there is such a time on the calendar. Zones are less than a day
away from universal time. -/
def isOnCalendar (timestamp : Timestamp) : Bool :=
  1 ≤ timestamp.year && 1 ≤ timestamp.month && timestamp.month ≤ 12 &&
    1 ≤ timestamp.day && timestamp.day ≤ daysIn timestamp.year timestamp.month &&
    timestamp.time.all fun time =>
      time.hour < 24 && time.minute < 60 && time.second < 60 &&
        time.zone.all fun zone => zone.minutes.natAbs < 24 * 60

def splitNumber? (least most : Nat) (text : List Char) : Option (Nat × List Char) :=
  let digits := (text.take most).takeWhile Char.isDigit
  if digits.length < least then none else some (Text.wholeNumber digits, text.drop digits.length)

def splitMark? (mark : Char) : List Char → Option (List Char)
  | [] => none
  | character :: rest => if character = mark then some rest else none

def microseconds (digits : List Char) : Nat :=
  Text.wholeNumber ((digits ++ List.replicate 6 '0').take 6)

/-- A zone is a `Z` or a sign, hours and perhaps minutes. Blanks may precede it. -/
def splitZone? (text : List Char) : Option (Option Zone × List Char) :=
  match text.dropWhile isBlank with
  | 'Z' :: rest => some (some ⟨0⟩, rest)
  | sign :: rest =>
      if sign = '+' || sign = '-' then do
        let (hours, rest) ← splitNumber? 1 2 rest
        let (minutes, rest) ←
          match splitMark? ':' rest with
          | none => some (0, rest)
          | some rest => splitNumber? 2 2 rest
        let distance : Int := hours * 60 + minutes
        return (some ⟨if sign = '-' then -distance else distance⟩, rest)
      else some (none, text)
  | [] => some (none, text)

def splitTime? (text : List Char) : Option (TimeOfDay × List Char) := do
  let (hour, rest) ← splitNumber? 1 2 text
  let (minute, rest) ← splitNumber? 2 2 (← splitMark? ':' rest)
  let (second, rest) ← splitNumber? 2 2 (← splitMark? ':' rest)
  let (digits, rest) :=
    match splitMark? '.' rest with
    | none => ([], rest)
    | some rest => (rest.takeWhile Char.isDigit, rest.dropWhile Char.isDigit)
  let (zone, rest) ← splitZone? rest
  return (⟨hour, minute, second, microseconds digits, zone⟩, rest)

def skipDivider? : List Char → Option (List Char)
  | [] => none
  | character :: rest =>
      if character = 'T' || character = 't' then some rest
      else if isBlank character then
        some (rest.dropWhile isBlank)
      else none

/-- Nothing may follow but one line feed. -/
def isFinished (rest : List Char) : Bool :=
  rest.isEmpty || rest = ['\n']

def read? (text : List Char) : Option Timestamp := do
  let (year, rest) ← splitNumber? 4 4 text
  let (month, rest) ← splitNumber? 1 2 (← splitMark? '-' rest)
  let (day, rest) ← splitNumber? 1 2 (← splitMark? '-' rest)
  if isFinished rest then return ⟨year, month, day, none⟩
  else
    let (time, rest) ← splitTime? (← skipDivider? rest)
    if isFinished rest then return ⟨year, month, day, some time⟩ else none

/-- Whether a text is a timestamp without a tag that says so. A date alone must
have two digits for its month and for its day. -/
def isImplicit (text : List Char) : Bool :=
  match read? text with
  | none => false
  | some timestamp =>
      timestamp.time.isSome || (text.takeWhile (· ≠ '\n')).length = "2000-01-01".length

def text (timestamp : Timestamp) : String :=
  padded 4 timestamp.year ++ "-" ++ padded 2 timestamp.month ++ "-" ++
    padded 2 timestamp.day ++ timestamp.time.elim "" fun time => " " ++ TimeOfDay.text time

end Timestamp

end Foragers.Document
