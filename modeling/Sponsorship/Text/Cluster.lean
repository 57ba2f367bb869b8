import Sponsorship.Text.Table.Cluster
import Sponsorship.Text.Table.GraphemeExtend

/-!
# Grapheme clusters

The number of characters a reader sees: extended grapheme clusters, with conjuncts of Indic
scripts kept together.

* `ClusterClass`: the class of a character, on which boundaries depend.
* `ClusterContext`: what has to be known about the text before a place.
* `ClusterContext.splits`: whether a cluster ends there.
* `clusterCount`: the number of clusters.
-/

namespace Sponsorship.Text

/-- The class of a character at a cluster boundary. -/
inductive ClusterClass
  | carriageReturn
  | lineFeed
  | control
  /-- A mark on the character before it; `linker` joins two consonants, `binding` lets a conjunct
  run through it. -/
  | extend (linker binding : Bool)
  | joiner
  | regional
  | leading
  | spacing
  | hangulL
  | hangulV
  | hangulT
  | hangulLV
  | hangulLVT
  | pictograph
  | consonant
  | other
  deriving DecidableEq, Repr

namespace ClusterClass

/-- The class of a Hangul letter or syllable. -/
def ofHangul? (n : Nat) : Option ClusterClass :=
  if (0x1100 ≤ n ∧ n ≤ 0x115F) ∨ (0xA960 ≤ n ∧ n ≤ 0xA97C) then some hangulL
  else if (0x1160 ≤ n ∧ n ≤ 0x11A7) ∨ (0xD7B0 ≤ n ∧ n ≤ 0xD7C6) ∨ n = 0x16D63 ∨
      (0x16D67 ≤ n ∧ n ≤ 0x16D6A) then some hangulV
  else if (0x11A8 ≤ n ∧ n ≤ 0x11FF) ∨ (0xD7CB ≤ n ∧ n ≤ 0xD7FB) then some hangulT
  else if 0xAC00 ≤ n ∧ n ≤ 0xD7A3 then
    some (if (n - 0xAC00) % 28 = 0 then hangulLV else hangulLVT)
  else none

def ofChar (c : Char) : ClusterClass :=
  let n := c.toNat
  if n = 0x0D then carriageReturn
  else if n = 0x0A then lineFeed
  else if Table.clusterControl.has c then control
  else if n < 0xA0 then other
  else if n = 0x200D then joiner
  else if Table.graphemeExtend.has c ∨ (0x1F3FB ≤ n ∧ n ≤ 0x1F3FF) then
    extend (Table.conjunctLinker.has c) (n ≠ 0x200C)
  else if 0x1F1E6 ≤ n ∧ n ≤ 0x1F1FF then regional
  else if Table.clusterSpacing.has c then spacing
  else if Table.clusterPrepend.has c then leading
  else if Table.conjunctConsonant.has c then consonant
  else if Table.pictographic.has c then pictograph
  else (ofHangul? n).getD other

end ClusterClass

/-- How far a conjunct has come: nothing, a consonant, or a consonant and a linker. -/
inductive Conjunct
  | absent
  | started
  | linked
  deriving DecidableEq, Repr

/-- What the text before a place says about a boundary there. -/
structure ClusterContext where
  last : ClusterClass
  /-- The run of regional indicators that ends here has odd length. -/
  oddRegional : Bool
  /-- The text ends in a pictograph and marks on it. -/
  onPictograph : Bool
  /-- The text ends in a pictograph, marks on it and a joiner. -/
  joinable : Bool
  conjunct : Conjunct

namespace ClusterContext

open ClusterClass

/-- The context after the first character of a text. -/
def start (c : ClusterClass) : ClusterContext :=
  { last := c, oddRegional := c = regional, onPictograph := c = pictograph, joinable := false,
    conjunct := if c = consonant then .started else .absent }

def advance (x : ClusterContext) (c : ClusterClass) : ClusterContext :=
  { last := c
    oddRegional := c = regional && !x.oddRegional
    onPictograph := match c with
      | .pictograph => true
      | .extend _ _ => x.onPictograph
      | _ => false
    joinable := c = joiner && x.onPictograph
    conjunct := match c with
      | .consonant => .started
      | .extend true _ => if x.conjunct = .absent then .absent else .linked
      | .extend false true => x.conjunct
      | .joiner => x.conjunct
      | _ => .absent }

/-- Whether a cluster ends between the text read so far and a character of class `c`. -/
def splits (x : ClusterContext) (c : ClusterClass) : Bool :=
  match x.last, c with
  | .carriageReturn, .lineFeed => false
  | .carriageReturn, _ | .lineFeed, _ | .control, _ => true
  | _, .carriageReturn | _, .lineFeed | _, .control => true
  | .hangulL, .hangulL | .hangulL, .hangulV | .hangulL, .hangulLV | .hangulL, .hangulLVT => false
  | .hangulLV, .hangulV | .hangulLV, .hangulT | .hangulV, .hangulV | .hangulV, .hangulT => false
  | .hangulLVT, .hangulT | .hangulT, .hangulT => false
  | _, .extend _ _ | _, .joiner | _, .spacing => false
  | .leading, _ => false
  | _, .consonant => x.conjunct ≠ .linked
  | .joiner, .pictograph => !x.joinable
  | .regional, .regional => !x.oddRegional
  | _, _ => true

/-- The number of boundaries in the rest of a text. -/
def count (x : ClusterContext) : List ClusterClass → Nat
  | [] => 0
  | c :: cs => (if x.splits c then 1 else 0) + (x.advance c).count cs

end ClusterContext

/-- The number of extended grapheme clusters of a text. -/
def clusterCount (s : String) : Nat :=
  match s.toList.map ClusterClass.ofChar with
  | [] => 0
  | c :: cs => 1 + (ClusterContext.start c).count cs

end Sponsorship.Text
