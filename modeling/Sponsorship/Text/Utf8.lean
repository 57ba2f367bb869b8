/-!
# UTF-8

Reading bytes that may not be text.

* `Utf8.bytes`: the bytes of a text.
* `Utf8.decode?`: the text of bytes, if they are one.
* `Utf8.decodeLossy`: the text of any bytes, with a replacement for each part that is none.
-/

namespace Sponsorship.Text.Utf8

abbrev Bytes := List Nat

def bytes (s : String) : Bytes := s.toUTF8.toList.map UInt8.toNat

/-- What the first byte of a character says: how many bytes follow, the range of the next of them,
and the bits it holds itself. -/
structure Lead where
  tails : Nat
  low : Nat := 0x80
  high : Nat := 0xBF
  bits : Nat

def lead? (b : Nat) : Option Lead :=
  if b < 0x80 then some { tails := 0, bits := b }
  else if b < 0xC2 then none
  else if b < 0xE0 then some { tails := 1, bits := b - 0xC0 }
  else if b = 0xE0 then some { tails := 2, low := 0xA0, bits := 0 }
  else if b = 0xED then some { tails := 2, high := 0x9F, bits := b - 0xE0 }
  else if b < 0xF0 then some { tails := 2, bits := b - 0xE0 }
  else if b = 0xF0 then some { tails := 3, low := 0x90, bits := 0 }
  else if b < 0xF4 then some { tails := 3, bits := b - 0xF0 }
  else if b = 0xF4 then some { tails := 3, high := 0x8F, bits := b - 0xF0 }
  else none

/-- The bytes that follow a first byte: the code point, or none at the first that does not fit, and
the bytes after them. -/
def takeTails : (count low high bits : Nat) → Bytes → Option Nat × Bytes
  | 0, _, _, bits, bs => (some bits, bs)
  | _ + 1, _, _, _, [] => (none, [])
  | count + 1, low, high, bits, b :: bs =>
    if low ≤ b ∧ b ≤ high then takeTails count 0x80 0xBF (bits * 64 + b % 64) bs
    else (none, b :: bs)

theorem length_takeTails (count low high bits : Nat) (bs : Bytes) :
    (takeTails count low high bits bs).2.length ≤ bs.length := by
  induction bs generalizing count low high bits with
  | nil => cases count <;> simp [takeTails]
  | cons b bs ih =>
    cases count with
    | zero => simp [takeTails]
    | succ count =>
      rw [takeTails]
      split
      · exact Nat.le_succ_of_le (ih _ _ _ _)
      · exact Nat.le_refl _

/-- The first character, or none where the bytes are no text, and the bytes after it. -/
def takeChar (b : Nat) (bs : Bytes) : Option Char × Bytes :=
  match lead? b with
  | none => (none, bs)
  | some l =>
    let (code, rest) := takeTails l.tails l.low l.high l.bits bs
    (code.map Char.ofNat, rest)

theorem length_takeChar (b : Nat) (bs : Bytes) : (takeChar b bs).2.length ≤ bs.length := by
  rw [takeChar]
  split
  · exact Nat.le_refl _
  · exact length_takeTails _ _ _ _ _

/-- The characters one by one; none stands for a part that is no text. -/
def chars : Bytes → List (Option Char)
  | [] => []
  | b :: bs =>
    have := length_takeChar b bs
    (takeChar b bs).1 :: chars (takeChar b bs).2
termination_by bs => bs.length
decreasing_by simp only [List.length_cons]; omega

/-- The text of bytes, if they are one. -/
def decode? (bs : Bytes) : Option String := ((chars bs).mapM id).map String.ofList

def decodeLossy (bs : Bytes) : String :=
  String.ofList ((chars bs).map fun c => c.getD '\ufffd')

end Sponsorship.Text.Utf8
