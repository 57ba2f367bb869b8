import Sponsorship.Json.Scan
import Sponsorship.Json.Reader
import Sponsorship.Text.Utf8

/-!
# Where an error shows

* `Reader.shownAfter`: how much of a text has to be seen until an error shows.
* `Reader.report`: the error with that place.
-/

namespace Sponsorship

open Text

namespace ReadError

/-- Whether two errors have one cause. A value that can be no name shows by its first character. -/
def isLike : ReadError → ReadError → Bool
  | .nameless _, .nameless _ => true
  | e, e' => e = e'

/-- Whether the error shows before the last character that has been seen is taken: the start of a
list or a map is only looked at. -/
def isPeeked : ReadError → Bool
  | .unsuited found _ => found = "sequence" || found = "map"
  | _ => false

/-- The message of an error in a text. -/
def messageInText : ReadError → String
  | .nameless _ => "expected value"
  | e => e.message

end ReadError

namespace Reader

variable {α : Type}

/-- The shortest front of a text, `n` characters or more, that shows an error; the whole text if
none does. -/
def shownAfter (r : Reader α) (cs : List Char) (e : ReadError) : (fuel n : Nat) → List Char
  | 0, _ => cs
  | fuel + 1, n =>
    match r (Document.scan (String.ofList (cs.take n))).1 with
    | .ok _ => shownAfter r cs e fuel (n + 1)
    | .error e' => if e'.isLike e then cs.take n else shownAfter r cs e fuel (n + 1)

/-- The error of a text of one line, with the number of bytes up to its place. -/
def report (r : Reader α) (text : String) (e : ReadError) : String :=
  let front := r.shownAfter text.toList e (text.length + 1) 0
  let bytes := (String.ofList front).utf8ByteSize
  e.messageInText ++ " at line 1 column " ++ toString (if e.isPeeked then bytes - 1 else bytes)

end Reader

end Sponsorship
