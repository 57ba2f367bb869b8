import Sponsorship.Text.Table.Case

/-!
# Lower case

* `lowerChar`: the lower case form of one character, which may be two characters.
* `lowercase`: the lower case form of a text. A capital sigma becomes a final sigma at the end of
  a word, so the form of a text is not put together from the forms of its parts.
* `containsIgnoringCase`: a text contains another once both are in lower case.
-/

namespace Sponsorship.Text

/-- The code point at a run's offset, for a code point of the run. -/
def Table.CaseRun.lower? (r : Table.CaseRun) (n : Nat) : Option Nat :=
  if r.first ≤ n ∧ n ≤ r.last ∧ (n - r.first) % r.step = 0 then
    some (Int.toNat (n + r.offset))
  else none

/-- The lower case form of a character, whatever stands around it. -/
def lowerChar (c : Char) : List Char :=
  if c.toNat < 0x80 then [c.toLower]
  else if c.toNat = 0x130 then ['i', Char.ofNat 0x307]
  else match Table.lowerRuns.findSome? (·.lower? c.toNat) with
    | some n => [Char.ofNat n]
    | none => [c]

/-- Whether a cased character comes first once the ignorable ones are skipped. -/
def meetsCased (cs : List Char) : Bool :=
  match cs.dropWhile Table.caseIgnorable.has with
  | [] => false
  | c :: _ => Table.cased.has c

/-- The lower case form of `cs`, when `before` is the text before it, last character first. -/
def lowerAfter (before : List Char) : List Char → List Char
  | [] => []
  | c :: cs =>
    (if c.toNat = 0x3A3 then
      [Char.ofNat (if meetsCased before && !meetsCased cs then 0x3C2 else 0x3C3)]
    else lowerChar c) ++ lowerAfter (c :: before) cs

def lowercase (s : String) : String := String.ofList (lowerAfter [] s.toList)

/-- Whether `part` occurs in `whole` without a gap. -/
def occursIn (part : List Char) : List Char → Bool
  | [] => part.isEmpty
  | c :: cs => part.isPrefixOf (c :: cs) || occursIn part cs

/-- Whether the lower case form of `whole` contains that of `part`. -/
def containsIgnoringCase (whole part : String) : Bool :=
  occursIn (lowercase part).toList (lowercase whole).toList

/-- Equality up to the case of ASCII letters. -/
def equalsIgnoringAsciiCase (a b : String) : Bool :=
  a.toList.map Char.toLower == b.toList.map Char.toLower

end Sponsorship.Text
