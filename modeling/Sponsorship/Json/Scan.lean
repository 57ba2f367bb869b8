import Sponsorship.Json.Value

/-!
# Reading JSON text

`Document.scan` reads a text into a document. It never fails: where the text breaks off or goes
wrong, the document is broken, and what was read before that place is kept. Whoever interprets the
document in order meets the broken place exactly where a reader of the text would.

* `Document.scan`: the document of a text, and whether anything but blanks follows it.
* `Scanned`: a document and the text after it, if the text went on properly.
-/

namespace Sponsorship

namespace Document

/-- A result and the text after it; `none` when the text went wrong. -/
abbrev Scanned (α : Type) := α × Option (List Char)

def isGap (c : Char) : Bool := c = ' ' || c = '\n' || c = '\t' || c = '\r'

def skipGap (cs : List Char) : List Char := cs.dropWhile isGap

def isDigit (c : Char) : Bool := '0' ≤ c && c ≤ '9'

def after? : List Char → List Char → Option (List Char)
  | [], cs => some cs
  | w :: ws, c :: cs => if w = c then after? ws cs else none
  | _ :: _, [] => none

def wordOr (value : Document) (word cs : List Char) : Scanned Document :=
  match after? word cs with
  | some rest => (value, some rest)
  | none => (.broken, none)

def digitsValue (ds : List Char) : Nat := ds.foldl (fun n c => 10 * n + (c.toNat - '0'.toNat)) 0

def spanDigits (cs : List Char) : List Char × List Char := (cs.takeWhile isDigit, cs.dropWhile isDigit)

/-- The digits of an integer part: a zero stands alone. -/
def scanWhole? (cs : List Char) : Option (List Char × List Char) :=
  match spanDigits cs with
  | ([], _) => none
  | ('0' :: _ :: _, _) => none
  | r => some r

/-- The digits after a point, if there is one. -/
def scanFraction? : List Char → Option (Option (List Char) × List Char)
  | '.' :: cs =>
    match spanDigits cs with
    | ([], _) => none
    | (ds, rest) => some (some ds, rest)
  | cs => some (none, cs)

def scanExponent? : List Char → Option (Option Int × List Char)
  | c :: cs =>
    if c = 'e' ∨ c = 'E' then
      let (negative, cs) := match cs with
        | '+' :: rest => (false, rest)
        | '-' :: rest => (true, rest)
        | _ => (false, cs)
      match spanDigits cs with
      | ([], _) => none
      | (ds, rest) =>
        let n : Int := digitsValue ds
        some (some (if negative then -n else n), rest)
    else some (none, c :: cs)
  | [] => some (none, [])

def scanNumber (negative : Bool) (cs : List Char) : Scanned Document :=
  let parts := do
    let (whole, cs) ← scanWhole? cs
    let (fraction, cs) ← scanFraction? cs
    let (exponent, cs) ← scanExponent? cs
    return (whole, fraction, exponent, cs)
  match parts with
  | none => (.broken, none)
  | some (whole, none, none, rest) =>
    let n := digitsValue whole
    if negative ∧ n = 0 then (.number (.decimal true 0 0), some rest)
    else (.number (.integer (if negative then -n else n)), some rest)
  | some (whole, fraction, exponent, rest) =>
    let places := fraction.getD []
    (.number (.decimal negative (digitsValue (whole ++ places)) (exponent.getD 0 - places.length)),
      some rest)

def hexDigit? (c : Char) : Option Nat :=
  if '0' ≤ c ∧ c ≤ '9' then some (c.toNat - '0'.toNat)
  else if 'a' ≤ c ∧ c ≤ 'f' then some (c.toNat - 'a'.toNat + 10)
  else if 'A' ≤ c ∧ c ≤ 'F' then some (c.toNat - 'A'.toNat + 10)
  else none

def scanUnit? : List Char → Option (Nat × List Char)
  | a :: b :: c :: d :: rest => do
    return (((← hexDigit? a) * 16 + (← hexDigit? b)) * 256 + (← hexDigit? c) * 16 + (← hexDigit? d),
      rest)
  | _ => none

/-- One piece of a string: a character, or a 16-bit unit from an escape. -/
inductive Piece
  | char (c : Char)
  | unit (n : Nat)

/-- The pieces of a string up to its closing quote; at most `fuel` of them. -/
def scanPieces : Nat → List Char → Option (List Piece × List Char)
  | 0, _ => none
  | fuel + 1, cs =>
    let more (p : Piece) (rest : List Char) : Option (List Piece × List Char) :=
      (scanPieces fuel rest).map fun (ps, rest) => (p :: ps, rest)
    match cs with
    | [] => none
    | '"' :: rest => some ([], rest)
    | '\\' :: 'u' :: rest =>
      match scanUnit? rest with
      | some (n, rest) => more (.unit n) rest
      | none => none
    | '\\' :: c :: rest =>
      if c = '"' ∨ c = '\\' ∨ c = '/' then more (.char c) rest
      else if c = 'b' then more (.char '\x08') rest
      else if c = 'f' then more (.char '\x0c') rest
      else if c = 'n' then more (.char '\n') rest
      else if c = 'r' then more (.char '\r') rest
      else if c = 't' then more (.char '\t') rest
      else none
    | c :: rest => if c.toNat < 0x20 then none else more (.char c) rest

def isHighSurrogate (n : Nat) : Bool := 0xD800 ≤ n && n ≤ 0xDBFF

def isLowSurrogate (n : Nat) : Bool := 0xDC00 ≤ n && n ≤ 0xDFFF

/-- The characters of a string; `none` when a surrogate stands without its partner. -/
def joinPieces : List Piece → Option (List Char)
  | [] => some []
  | .char c :: ps => (joinPieces ps).map (c :: ·)
  | .unit n :: .unit m :: ps =>
    if isHighSurrogate n then
      if isLowSurrogate m then
        (joinPieces ps).map (Char.ofNat (0x10000 + (n - 0xD800) * 0x400 + (m - 0xDC00)) :: ·)
      else none
    else if isLowSurrogate n then none
    else (joinPieces (.unit m :: ps)).map (Char.ofNat n :: ·)
  | .unit n :: ps =>
    if isHighSurrogate n || isLowSurrogate n then none else (joinPieces ps).map (Char.ofNat n :: ·)

/-- A string whose opening quote has been read. -/
def scanString? (fuel : Nat) (cs : List Char) : Option (Option String × List Char) :=
  (scanPieces fuel cs).map fun (ps, rest) => ((joinPieces ps).map String.ofList, rest)

mutual

/-- A value. Of two nested calls at least one has read a character, so twice the length of the text
is enough fuel, and always more than there are characters left. -/
def scanValue : Nat → List Char → Scanned Document
  | 0, _ => (.broken, none)
  | fuel + 1, cs =>
    match skipGap cs with
    | 'n' :: rest => wordOr .null "ull".toList rest
    | 't' :: rest => wordOr (.bool true) "rue".toList rest
    | 'f' :: rest => wordOr (.bool false) "alse".toList rest
    | '-' :: rest => scanNumber true rest
    | '"' :: rest =>
      match scanString? fuel rest with
      | some (s, rest) => (.string s, some rest)
      | none => (.broken, none)
    | '[' :: rest =>
      match skipGap rest with
      | ']' :: rest => (.array [] true, some rest)
      | rest =>
        let (items, rest) := scanItems fuel rest
        (.array items rest.isSome, rest)
    | '\x7b' :: rest =>
      match skipGap rest with
      | '\x7d' :: rest => (.object [] true, some rest)
      | rest =>
        let (entries, rest) := scanEntries fuel rest
        (.object entries rest.isSome, rest)
    | c :: rest => if isDigit c then scanNumber false (c :: rest) else (.broken, none)
    | [] => (.broken, none)

/-- The items of an array from one on, with the closing bracket. -/
def scanItems : Nat → List Char → Scanned (List Document)
  | 0, _ => ([], none)
  | fuel + 1, cs =>
    match scanValue fuel cs with
    | (d, none) => ([d], none)
    | (d, some rest) =>
      match skipGap rest with
      | ']' :: rest => ([d], some rest)
      | ',' :: rest =>
        match skipGap rest with
        | ']' :: _ => ([d], none)
        | rest =>
          let (ds, rest) := scanItems fuel rest
          (d :: ds, rest)
      | _ => ([d], none)

/-- The entries of an object from one on, with the closing brace. -/
def scanEntries : Nat → List Char → Scanned (List (Option String × Document))
  | 0, _ => ([], none)
  | fuel + 1, cs =>
    match skipGap cs with
    | '"' :: rest =>
      match scanString? fuel rest with
      | none => ([], none)
      | some (key, rest) =>
        match skipGap rest with
        | ':' :: rest =>
          match scanValue fuel rest with
          | (d, none) => ([(key, d)], none)
          | (d, some rest) =>
            match skipGap rest with
            | '\x7d' :: rest => ([(key, d)], some rest)
            | ',' :: rest =>
              let (es, rest) := scanEntries fuel rest
              ((key, d) :: es, rest)
            | _ => ([(key, d)], none)
        | _ => ([(key, .broken)], none)
    | _ => ([], none)

end

/-- The document that starts a text, and whether only blanks follow it. -/
def scan (text : String) : Document × Bool :=
  let cs := text.toList
  match scanValue (2 * cs.length + 2) cs with
  | (d, none) => (d, false)
  | (d, some rest) => (d, (skipGap rest).isEmpty)

end Document

end Sponsorship
