/-!
# Binary numbers

Numbers of a fixed binary precision, kept exactly as sign, significand and exponent.

* `Format`: precision and exponent range; `Format.single` and `Format.double` are the two in use.
* `Binary`: a number of a format, an infinity included.
* `Format.round`: the number of a format nearest to a fraction, a tie to the even significand.
* `Binary.isPositive`, `Binary.isNegative`, `Binary.lt`: comparisons.
-/

namespace Sponsorship.Number

/-- The shape of a number: how many significant bits, and the weights its last bit can have. -/
structure Format where
  precision : Nat
  lowest : Int
  highest : Int
  deriving DecidableEq, Repr

/-- Numbers of 32 bits. -/
def Format.single : Format := { precision := 24, lowest := -149, highest := 104 }

/-- Numbers of 64 bits. -/
def Format.double : Format := { precision := 53, lowest := -1074, highest := 971 }

/-- The size of a number: `significand * 2 ^ exponent`, or too large for the format. -/
inductive Magnitude
  | finite (significand : Nat) (exponent : Int)
  | infinite
  deriving DecidableEq, Repr

structure Binary (f : Format) where
  negative : Bool
  magnitude : Magnitude
  deriving DecidableEq, Repr

abbrev Single := Binary .single
abbrev Double := Binary .double

/-- The quotient rounded to the nearest natural number, a tie to the even one. -/
def roundDiv (num den : Nat) : Nat :=
  let q := num / den
  let r := num % den
  if 2 * r < den then q else if den < 2 * r then q + 1 else q + q % 2

/-- `num / den` in units of `2 ^ exponent`, rounded. -/
def roundAt (num den : Nat) (exponent : Int) : Nat :=
  if 0 ≤ exponent then roundDiv num (den * Nat.pow 2 exponent.toNat)
  else roundDiv (num * Nat.pow 2 (-exponent).toNat) den

/-- The largest `k` with `2 ^ k ≤ num / den`. -/
def floorLog2 (num den : Nat) : Int :=
  let k : Int := Nat.log2 num - Nat.log2 den
  let isBelow := if 0 ≤ k then den * Nat.pow 2 k.toNat ≤ num else den ≤ num * Nat.pow 2 (-k).toNat
  if isBelow then k else k - 1

/-- The size in format `f` nearest to `num / den`. -/
def Format.round (f : Format) (num den : Nat) : Magnitude :=
  if num = 0 then .finite 0 f.lowest
  else
    let exponent := max (floorLog2 num den - (f.precision - 1)) f.lowest
    let significand := roundAt num den exponent
    let (m, e) :=
      if significand = Nat.pow 2 f.precision then (Nat.pow 2 (f.precision - 1), exponent + 1)
      else (significand, exponent)
    if f.highest < e then .infinite else .finite m e

/-- The number of decimal digits of `n`, at most one too many. -/
def decimalWidth (n : Nat) : Int := (Nat.log2 n * 30103 / 100000 : Nat) + 1

/-- The number of format `f` nearest to `± digits * 10 ^ exponent`. Sizes that are out of the
reach of every format are not expanded. -/
def Format.ofDecimal (f : Format) (negative : Bool) (digits : Nat) (exponent : Int) : Binary f :=
  { negative
    magnitude :=
      if digits = 0 then .finite 0 f.lowest
      else if 400 < exponent + decimalWidth digits then .infinite
      else if exponent + decimalWidth digits < -400 then .finite 0 f.lowest
      else if 0 ≤ exponent then f.round (digits * Nat.pow 10 exponent.toNat) 1
      else f.round digits (Nat.pow 10 (-exponent).toNat) }

/-- The number of format `f` nearest to an integer. -/
def Format.ofInt (f : Format) (n : Int) : Binary f :=
  { negative := n < 0, magnitude := f.round n.natAbs 1 }

def Format.zero (f : Format) : Binary f := { negative := false, magnitude := .finite 0 f.lowest }

namespace Magnitude

def isNonzero : Magnitude → Bool
  | .finite m _ => m ≠ 0
  | .infinite => true

def lt : Magnitude → Magnitude → Bool
  | .finite m e, .finite m' e' =>
    let base := min e e'
    m * Nat.pow 2 (e - base).toNat < m' * Nat.pow 2 (e' - base).toNat
  | .finite _ _, .infinite => true
  | .infinite, _ => false

end Magnitude

namespace Binary

variable {f : Format}

def isFinite (x : Binary f) : Bool :=
  match x.magnitude with
  | .finite _ _ => true
  | .infinite => false

/-- Equal to zero; both zeros are. -/
def isZero (x : Binary f) : Bool := !x.magnitude.isNonzero

def isPositive (x : Binary f) : Bool := !x.negative && x.magnitude.isNonzero

def isNegative (x : Binary f) : Bool := x.negative && x.magnitude.isNonzero

/-- Strict order of numbers; the two zeros are equal. -/
def lt (x y : Binary f) : Bool :=
  match x.isNegative, y.isNegative with
  | true, true => y.magnitude.lt x.magnitude
  | true, false => true
  | false, true => false
  | false, false => x.magnitude.lt y.magnitude

/-- The number of another format nearest to `x`. -/
def convert (g : Format) (x : Binary f) : Binary g :=
  { negative := x.negative
    magnitude := match x.magnitude with
      | .infinite => .infinite
      | .finite m e =>
        if 0 ≤ e then g.round (m * Nat.pow 2 e.toNat) 1 else g.round m (Nat.pow 2 (-e).toNat) }

end Binary

end Sponsorship.Number
