import Sponsorship.Text.CodePoints

/-!
# Blank characters

* `isBlank`: the White_Space property.
* `trim`: a text without the blanks at its two ends.
* `isBlankText`: nothing but blanks.
-/

namespace Sponsorship.Text

/-- Code points with White_Space. -/
def whiteSpace : CodePoints :=
  [(0x0009, 0x000D), (0x0020, 0x0020), (0x0085, 0x0085), (0x00A0, 0x00A0), (0x1680, 0x1680),
    (0x2000, 0x200A), (0x2028, 0x2029), (0x202F, 0x202F), (0x205F, 0x205F), (0x3000, 0x3000)]

def isBlank (c : Char) : Bool := whiteSpace.has c

def trimStart (cs : List Char) : List Char := cs.dropWhile isBlank

def trim (s : String) : String :=
  String.ofList (trimStart (trimStart s.toList).reverse).reverse

/-- Whether the text has no character that is not blank. -/
def isBlankText (s : String) : Bool := s.toList.all isBlank

end Sponsorship.Text
