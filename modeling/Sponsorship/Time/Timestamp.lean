import Sponsorship.Text.Blank
import Sponsorship.Time.Instant

/-!
# Timestamps as text

Instants in the profile of ISO 8601 that web services exchange. Reading is lenient about blanks
between the parts, leading zeros and the separators; writing has one form.

* `Instant.parse?`: read a timestamp with its offset.
* `Instant.text`: write it in UTC, with no fraction or with 3, 6 or 9 digits.
-/

namespace Sponsorship.Time

open Sponsorship.Text

abbrev Rest := List Char

def digit? (c : Char) : Option Nat :=
  if '0' ≤ c ∧ c ≤ '9' then some (c.toNat - '0'.toNat) else none

/-- The longest run of digits, of length `limit` at most: its value, its length and the rest. -/
def takeDigits : Nat → Rest → Nat × Nat × Rest
  | limit, cs =>
    let run := (cs.take limit).takeWhile (fun c => (digit? c).isSome)
    (run.foldl (fun n c => 10 * n + (digit? c).getD 0) 0, run.length, cs.drop run.length)

/-- A number of one to `limit` digits, after blanks. -/
def readNumber? (limit : Nat) (cs : Rest) : Option (Nat × Rest) :=
  match takeDigits limit (trimStart cs) with
  | (_, 0, _) => none
  | (n, _, rest) => some (n, rest)

/-- A year: four digits at most, or any number of them after a sign. -/
def readYear? (cs : Rest) : Option (Int × Rest) :=
  match trimStart cs with
  | '-' :: rest => signed? (-1) rest
  | '+' :: rest => signed? 1 rest
  | rest => (readNumber? 4 rest).map fun (n, rest) => ((n : Int), rest)
where
  signed? (sign : Int) (cs : Rest) : Option (Int × Rest) :=
    match takeDigits cs.length cs with
    | (_, 0, _) => none
    | (n, _, rest) => some (sign * n, rest)

/-- A fixed character, after blanks. -/
def skip? (c : Char) (cs : Rest) : Option Rest :=
  match trimStart cs with
  | d :: rest => if d = c then some rest else none
  | [] => none

/-- The fraction of a second in nanoseconds; digits after the ninth are dropped. -/
def readFraction? : Rest → Option (Nat × Rest)
  | '.' :: cs =>
    match takeDigits 9 cs with
    | (_, 0, _) => none
    | (n, width, rest) =>
      some (n * Nat.pow 10 (9 - width), rest.dropWhile fun c => (digit? c).isSome)
  | cs => some (0, cs)

def readPair? : Rest → Option (Nat × Rest)
  | a :: b :: rest => do return (10 * (← digit? a) + (← digit? b), rest)
  | _ => none

def readOffset? (cs : Rest) : Option (Int × Rest) :=
  match cs with
  | 'Z' :: rest | 'z' :: rest => some (0, rest)
  | u :: t :: c :: rest =>
    if u.toLower = 'u' ∧ t.toLower = 't' ∧ c.toLower = 'c' then some (0, rest) else signed? cs
  | _ => signed? cs
where
  signed? : Rest → Option (Int × Rest)
    | sign :: rest => do
      let factor : Int ←
        if sign = '+' then some 1
        else if sign = '-' ∨ sign = '\u2212' then some (-1)
        else none
      let (hours, rest) ← readPair? rest
      let (minutes, rest) ← readPair? (rest.dropWhile fun c => c = ':' || isBlank c)
      if minutes < 60 then some (factor * (hours * 3600 + minutes * 60), rest) else none
    | [] => none

/-- The years that a date can have. -/
def isYearInRange (year : Int) : Bool := -262143 ≤ year && year ≤ 262142

/-- Reads a timestamp. Second 60 is a leap second. -/
def Instant.parse? (s : String) : Option Instant := do
  let (year, cs) ← readYear? s.toList
  let cs ← skip? '-' cs
  let (month, cs) ← readNumber? 2 cs
  let cs ← skip? '-' cs
  let (day, cs) ← readNumber? 2 cs
  let cs ← match cs with
    | c :: rest => if c = 'T' ∨ c = 't' ∨ c = ' ' then some rest else none
    | [] => none
  let (hour, cs) ← readNumber? 2 cs
  let cs ← skip? ':' cs
  let (minute, cs) ← readNumber? 2 cs
  let cs ← skip? ':' cs
  let (second, cs) ← readNumber? 2 cs
  let (fraction, cs) ← readFraction? cs
  let (offset, cs) ← readOffset? (trimStart cs)
  let date : Date := { year, month, day }
  guard (trimStart cs).isEmpty
  guard (isYearInRange year && date.isValid && hour < 24 && minute < 60 && second ≤ 60)
  guard (-86400 < offset && offset < 86400)
  let leap := second = 60
  let seconds := date.toDays * 86400 + (hour * 3600 + minute * 60 + (if leap then 59 else second)) - offset
  guard (isYearInRange (Date.ofDays (Int.fdiv seconds 86400)).year)
  return { seconds, nanos := fraction + if leap then 1000000000 else 0 }

/-- `n` in decimal with leading zeros up to `width` digits. -/
def padded (width n : Nat) : List Char :=
  let ds := Nat.toDigits 10 n
  List.replicate (width - ds.length) '0' ++ ds

/-- A year of four digits, or with a sign when it is out of their range. -/
def yearText (year : Int) : List Char :=
  if 0 ≤ year ∧ year ≤ 9999 then padded 4 year.toNat
  else (if year < 0 then '-' else '+') :: padded 4 year.natAbs

/-- The fraction of a second with the fewest of 0, 3, 6 or 9 digits that hold it. -/
def fractionText (nanos : Nat) : List Char :=
  if nanos = 0 then []
  else if nanos % 1000000 = 0 then '.' :: padded 3 (nanos / 1000000)
  else if nanos % 1000 = 0 then '.' :: padded 6 (nanos / 1000)
  else '.' :: padded 9 nanos

def Instant.text (t : Instant) : String :=
  let date := Date.ofDays (Int.fdiv t.seconds 86400)
  let time := (Int.fmod t.seconds 86400).toNat
  let leap := 1000000000 ≤ t.nanos
  String.ofList <|
    yearText date.year ++ '-' :: padded 2 date.month ++ '-' :: padded 2 date.day ++
    'T' :: padded 2 (time / 3600) ++ ':' :: padded 2 (time / 60 % 60) ++
    ':' :: padded 2 (time % 60 + if leap then 1 else 0) ++
    fractionText (if leap then t.nanos - 1000000000 else t.nanos) ++ ['Z']

end Sponsorship.Time
