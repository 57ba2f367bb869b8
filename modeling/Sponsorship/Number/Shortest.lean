import Sponsorship.Number.Binary

/-!
# Shortest decimals

The decimal text of a binary number: the fewest digits that read back as the same number, and of
those the nearest to it, in positional notation.

* `Span`: the decimals that read back as a number.
* `shortest`: digits and exponent of the shortest of them.
* `Binary.text?`: the text of a finite number.
* `Binary.shown`: the text of any number inside a message.
* `Binary.pointed`: the text of a number that must not look like an integer.
-/

namespace Sponsorship.Number

/-- The fractions that round to one number: from `low` to `high` over `den`, the value being
`value / den`. The ends belong to it when the significand is even. -/
structure Span where
  low : Nat
  value : Nat
  high : Nat
  den : Nat
  closed : Bool

/-- The fractions that round to `m * 2 ^ e` in format `f`, in quarters of its last bit. Below a
power of two the neighbour is nearer. -/
def Format.span (f : Format) (m : Nat) (e : Int) : Span :=
  let lowQuarters := if m = Nat.pow 2 (f.precision - 1) ∧ f.lowest < e then 4 * m - 1 else 4 * m - 2
  let up := (e - 2).toNat
  { low := lowQuarters * Nat.pow 2 up
    value := 4 * m * Nat.pow 2 up
    high := (4 * m + 2) * Nat.pow 2 up
    den := Nat.pow 2 (2 - e).toNat
    closed := m % 2 = 0 }

namespace Span

/-- Whether `c * num / scale` rounds to the number. -/
def holds (s : Span) (num scale c : Nat) : Bool :=
  let x := c * num * s.den
  if s.closed then s.low * scale ≤ x && x ≤ s.high * scale
  else s.low * scale < x && x < s.high * scale

/-- The multiple of `10 ^ k` nearest to the value among those that round to it, if there is one;
a tie goes up. -/
def onGrid? (s : Span) (k : Int) : Option Nat :=
  let num := Nat.pow 10 k.toNat
  let scale := Nat.pow 10 (-k).toNat
  let below := s.value * scale / (s.den * num)
  let above := below + 1
  match s.holds num scale below, s.holds num scale above with
  | true, true =>
    if 2 * (s.value * scale) < (below + above) * (s.den * num) then some below else some above
  | true, false => some below
  | false, true => some above
  | false, false => none

/-- The first grid with a hit, from `10 ^ k` downwards, `fuel` grids at most. -/
def search (s : Span) : Nat → Int → Nat × Int
  | 0, k => (s.value / s.den, k)
  | fuel + 1, k =>
    match s.onGrid? k with
    | some c => (c, k)
    | none => search s fuel (k - 1)

end Span

/-- Digits and exponent of the shortest decimal that reads back as `m * 2 ^ e`. The first grid
tried is coarser than the number; 17 digits always suffice. -/
def shortest (f : Format) (m : Nat) (e : Int) : Nat × Int :=
  if m = 0 then (0, 0)
  else (f.span m e).search 25 ((Nat.log2 m + e + 1) * 30103 / 100000 + 2)

/-- `digits * 10 ^ exponent` in positional notation. -/
def positional (digits : Nat) (exponent : Int) : List Char :=
  let ds := Nat.toDigits 10 digits
  if 0 ≤ exponent then ds ++ List.replicate exponent.toNat '0'
  else
    let places := (-exponent).toNat
    let padded := List.replicate (places + 1 - ds.length) '0' ++ ds
    padded.take (padded.length - places) ++ '.' :: padded.drop (padded.length - places)

namespace Binary

variable {f : Format}

def text? (x : Binary f) : Option String :=
  match x.magnitude with
  | .infinite => none
  | .finite m e =>
    let (digits, exponent) := shortest f m e
    let body := if digits = 0 then ['0'] else positional digits exponent
    some (String.ofList (if x.negative then '-' :: body else body))

/-- The text of a number inside a message. -/
def shown (x : Binary f) : String :=
  match x.text? with
  | some t => t
  | none => if x.negative then "-inf" else "inf"

/-- The text of a number with at least one decimal place. -/
def pointed (x : Binary f) : String :=
  if x.shown.contains '.' then x.shown else x.shown ++ ".0"

end Binary

end Sponsorship.Number
