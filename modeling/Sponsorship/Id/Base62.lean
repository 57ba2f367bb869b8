import Sponsorship.Id

/-!
# Compact identifiers

An identifier of 22 characters made of a 128-bit number: its digits to base 62 with the least
significant first, a zero for every leading zero byte, and in front as many arbitrary characters as
are missing.

* `Base62.alphabet`: the 62 characters in order.
* `Base62.encode`: the identifier of a number.
* `Base62.random`: the identifier of a random number of version 4.
-/

namespace Sponsorship.Base62

def alphabet : List Char :=
  "0123456789abcdefghijklmnopqrstuvwxyzABCDEFGHIJKLMNOPQRSTUVWXYZ".toList

def width : Nat := 22

def character (n : Nat) : Char := alphabet.getD (n % 62) '0'

/-- The digits of a number, the least significant first; zero has none. -/
def digits (n : Nat) : List Char :=
  if h : n = 0 then [] else character n :: digits (n / 62)
termination_by n
decreasing_by omega

/-- How many of the 16 bytes of a 128-bit number are zero before the first that is not. -/
def leadingZeroBytes (n : Nat) : Nat :=
  ((List.range 16).takeWhile fun i => n / Nat.pow 256 (15 - i) % 256 = 0).length

/-- The digits of a number and a zero for each leading zero byte. -/
def body (n : Nat) : List Char := digits n ++ List.replicate (leadingZeroBytes n) '0'

/-- The identifier of a 128-bit number; `padding i` is the `i`th of the characters in front. -/
def encode (n : BitVec 128) (padding : Nat → Fin 62) : String :=
  let digits := (body n.toNat).take width
  let front := (List.range (width - digits.length)).map fun i => character (padding i)
  String.ofList (front ++ digits)

/-- Whether a text has the form of an identifier. -/
def isWellFormed (s : String) : Bool :=
  s.length = width && s.toList.all alphabet.contains

/-- The number with the marks of version 4 in the places for version and variant. -/
def version4 (n : BitVec 128) : BitVec 128 :=
  (n &&& ~~~((0xF000 : BitVec 128) <<< 64) &&& ~~~((0xC000 : BitVec 128) <<< 48)) |||
    ((0x4000 : BitVec 128) <<< 64) ||| ((0x8000 : BitVec 128) <<< 48)

/-- `count` random numbers below `bound`, and the generator after them. -/
def draws (bound : Nat) : Nat → StdGen → List Nat × StdGen
  | 0, g => ([], g)
  | count + 1, g =>
    let (n, g) := randNat g 0 (bound - 1)
    let (ns, g) := draws bound count g
    (n :: ns, g)

def random (g : StdGen) : String × StdGen :=
  let (bytes, g) := draws 256 16 g
  let (padding, g) := draws 62 width g
  let number := bytes.foldl (fun n b => 256 * n + b) 0
  (encode (version4 (BitVec.ofNat 128 number)) (fun i => Fin.ofNat 62 (padding.getD i 0)), g)

def randoms : Nat → StdGen → List String
  | 0, _ => []
  | count + 1, g =>
    let (id, g) := random g
    id :: randoms count g

end Sponsorship.Base62
