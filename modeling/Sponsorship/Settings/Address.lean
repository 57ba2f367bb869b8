import Sponsorship.Settings

/-!
# Socket addresses

Numeric internet addresses with a port.

* `SocketAddress`: an address of either version with its port.
* `SocketAddress.parse?`: read one; version 6 stands in brackets and may have a scope.
* `SocketAddress.text`: its canonical form.
* `Settings.address`: where the service listens.
-/

namespace Sponsorship

inductive SocketAddress
  | version4 (octets : List Nat) (port : Nat)
  | version6 (groups : List Nat) (scope port : Nat)
  deriving DecidableEq, Repr

namespace SocketAddress

/-- Reads a value from the front of a text and leaves the rest. -/
abbrev Parser (α : Type) := List Char → Option (α × List Char)

/-- The value of a digit to a base up to 16, in either case. -/
def digit? (base : Nat) (c : Char) : Option Nat :=
  let value? :=
    if '0' ≤ c ∧ c ≤ '9' then some (c.toNat - '0'.toNat)
    else if 'a' ≤ c ∧ c ≤ 'f' then some (c.toNat - 'a'.toNat + 10)
    else if 'A' ≤ c ∧ c ≤ 'F' then some (c.toNat - 'A'.toNat + 10)
    else none
  value?.filter (· < base)

/-- All digits at the front as a number up to `limit`. -/
def number (base limit : Nat) (admits : List Char → Bool) : Parser Nat := fun cs =>
  let ds := cs.takeWhile fun c => (digit? base c).isSome
  let value := ds.foldl (fun n c => base * n + (digit? base c).getD 0) 0
  if !ds.isEmpty && admits ds && value ≤ limit then some (value, cs.drop ds.length) else none

def mark (c : Char) : Parser Unit
  | d :: rest => if c = d then some ((), rest) else none
  | [] => none

/-- One of four octets: three digits at most and no zero in front. -/
def octet : Parser Nat := number 10 255 fun ds => ds.length ≤ 3 && (ds.length = 1 || ds.head? ≠ some '0')

def octets : Parser (List Nat) := fun cs => do
  let (a, cs) ← octet cs
  let ((), cs) ← mark '.' cs
  let (b, cs) ← octet cs
  let ((), cs) ← mark '.' cs
  let (c, cs) ← octet cs
  let ((), cs) ← mark '.' cs
  let (d, cs) ← octet cs
  return ([a, b, c, d], cs)

/-- A group of up to four hexadecimal digits. -/
def group : Parser Nat := number 16 65535 fun ds => ds.length ≤ 4

/-- Up to `limit` groups between colons. The last two groups may be written as four octets, which
ends the groups. -/
def groups : (first : Bool) → (limit : Nat) → List Char → (List Nat × Bool) × List Char
  | _, 0, cs => (([], false), cs)
  | first, limit + 1, cs =>
    let after? := if first then some cs else (mark ':' cs).map Prod.snd
    let embedded? := if limit = 0 then none else after?.bind octets
    match embedded? with
    | some ([a, b, c, d], rest) => (([256 * a + b, 256 * c + d], true), rest)
    | _ =>
      match after?.bind group with
      | none => (([], false), cs)
      | some (g, rest) =>
        let ((gs, isEmbedded), rest) := groups false limit rest
        ((g :: gs, isEmbedded), rest)

/-- Eight groups, of which a run of zeros may be left out. -/
def eightGroups : Parser (List Nat) := fun cs =>
  let ((front, isEmbedded), cs) := groups true 8 cs
  if front.length = 8 then some (front, cs)
  else if isEmbedded then none
  else do
    let ((), cs) ← mark ':' cs
    let ((), cs) ← mark ':' cs
    let ((back, _), cs) := groups true (7 - front.length) cs
    return (front ++ List.replicate (8 - front.length - back.length) 0 ++ back, cs)

def port : Parser Nat := fun cs => do
  let ((), cs) ← mark ':' cs
  number 10 65535 (fun _ => true) cs

/-- The scope after a percent sign; without one it is zero. -/
def scope (cs : List Char) : Nat × List Char :=
  let scoped? := do
    let ((), cs) ← mark '%' cs
    number 10 0xffffffff (fun _ => true) cs
  scoped?.getD (0, cs)

def parse4 : Parser SocketAddress := fun cs => do
  let (os, cs) ← octets cs
  let (p, cs) ← port cs
  return (.version4 os p, cs)

def parse6 : Parser SocketAddress := fun cs => do
  let ((), cs) ← mark '[' cs
  let (gs, cs) ← eightGroups cs
  let (s, cs) := scope cs
  let ((), cs) ← mark ']' cs
  let (p, cs) ← port cs
  return (.version6 gs s p, cs)

/-- The address that is the whole of a text. -/
def parse? (s : String) : Option SocketAddress :=
  match parse4 s.toList <|> parse6 s.toList with
  | some (a, []) => some a
  | _ => none

def octetsText (os : List Nat) : String := ".".intercalate (os.map toString)

def groupsText (gs : List Nat) : String :=
  ":".intercalate (gs.map fun g => String.ofList (Nat.toDigits 16 g))

/-- Length of the run of zeros at the front. -/
def zeros (gs : List Nat) : Nat := (gs.takeWhile (· = 0)).length

/-- Place and length of the first of the longest runs of zeros. -/
def longestZeros (gs : List Nat) : Nat × Nat :=
  (List.range gs.length).foldl
    (fun best i =>
      let run := zeros (gs.drop i)
      if best.2 < run then (i, run) else best) (0, 0)

/-- The groups with the longest run of two or more zeros left out. An address of version 4 in the
space of version 6 keeps its octets. -/
def addressText (gs : List Nat) : String :=
  match gs with
  | [0, 0, 0, 0, 0, 0xFFFF, a, b] =>
    "::ffff:" ++ octetsText [a / 256, a % 256, b / 256, b % 256]
  | _ =>
    let (start, run) := longestZeros gs
    if 1 < run then groupsText (gs.take start) ++ "::" ++ groupsText (gs.drop (start + run))
    else groupsText gs

def text : SocketAddress → String
  | .version4 os p => octetsText os ++ ":" ++ toString p
  | .version6 gs s p =>
    "[" ++ addressText gs ++ (if s = 0 then "" else "%" ++ toString s) ++ "]:" ++ toString p

end SocketAddress

def Settings.address (s : Settings) : Except SettingsError SocketAddress :=
  match SocketAddress.parse? (s.host ++ ":" ++ toString s.port) with
  | some a => .ok a
  | none => .error .invalidAddress

end Sponsorship
