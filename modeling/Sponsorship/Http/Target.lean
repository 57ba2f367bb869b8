import Sponsorship.Text.Utf8

/-!
# Request targets

* `Target`: path and query of a request, still encoded.
* `Target.parse?`: the target written in a request line; whatever may not stand there is refused.
* `percentDecode`: bytes written as a percent sign and two hexadecimal digits.
* `Target.segments`: the parts of the path.
* `Target.parameters`: the names and values of the query.
-/

namespace Sponsorship.Http

open Text

structure Target where
  path : String
  query : String
  deriving DecidableEq, Repr

/-- A character that may stand in a path. -/
def isPathChar (c : Char) : Bool := ' ' < c && !"#<>?`".toList.contains c

/-- A character that may stand in a query. -/
def isQueryChar (c : Char) : Bool := ' ' < c && !"\"#<>".toList.contains c

/-- A character that may stand in the name of a scheme. -/
def isSchemeChar (c : Char) : Bool := c.isAlphanum || ['+', '-', '.', '~'].contains c

/-- A character that may stand in the name of a host, its port or a user. -/
def isAuthorityChar (c : Char) : Bool :=
  c.isAlphanum || "!$&'()*+,-.:;=@[]_~".toList.contains c

namespace Target

def maxLength : Nat := 65534

/-- Path and query; a fragment is dropped. -/
def ofPath? (cs : List Char) : Option Target :=
  let path := cs.takeWhile fun c => c != '?' && c != '#'
  let query := match cs.drop path.length with
    | '?' :: rest => rest.takeWhile (· != '#')
    | _ => []
  if path.all isPathChar && query.all isQueryChar then
    some { path := String.ofList path, query := String.ofList query }
  else none

/-- What was seen of the place of a server: the colons and percent signs that count, and the
brackets around a numeric host. -/
structure Place where
  colons : Nat := 0
  opened : Bool := false
  closed : Bool := false
  percent : Bool := false
  afterUser : Bool := false

/-- The rules for the place of a server, one character after another. A user may have colons and
percent signs, a numeric host stands in brackets, and one colon introduces the port. -/
def Place.step (p : Place) (c : Char) : Option Place :=
  let p := { p with afterUser := false }
  if c = ':' then (if 8 ≤ p.colons then none else some { p with colons := p.colons + 1 })
  else if c = '[' then (if p.percent || p.opened then none else some { p with opened := true })
  else if c = ']' then
    if !p.opened || p.closed then none
    else some { p with closed := true, colons := 0, percent := false }
  else if c = '@' then some { p with colons := 0, percent := false, afterUser := true }
  else if c = '%' then some { p with percent := true }
  else if isAuthorityChar c then some p
  else none

/-- Whether a text names the place of a server. -/
def isPlace (cs : List Char) : Bool :=
  match cs.foldlM Place.step ({} : Place) with
  | none => false
  | some p => p.opened == p.closed && p.colons ≤ 1 && !p.afterUser && !p.percent

/-- The characters after a scheme and two slashes, if the text starts so. -/
def afterScheme? (cs : List Char) : Option (List Char × List Char) :=
  let scheme := cs.takeWhile isSchemeChar
  match cs.drop scheme.length with
  | ':' :: '/' :: '/' :: rest => some (scheme, rest)
  | _ => none

/-- A target with the place of a server in front, or that place alone. -/
def ofServer? (cs : List Char) : Option Target :=
  let isPlaceEnd (c : Char) : Bool := c = '/' || c = '?' || c = '#'
  match afterScheme? cs with
  | some (scheme, rest) =>
    let place := rest.takeWhile fun c => !isPlaceEnd c
    if 64 < scheme.length || place.isEmpty || !isPlace place then none
    else (ofPath? (rest.drop place.length)).map fun t =>
      if t.path.isEmpty then { t with path := "/" } else t
  | none => if cs.any isPlaceEnd || !isPlace cs then none else some { path := "", query := "" }

def parse? (s : String) : Option Target :=
  if maxLength < s.utf8ByteSize then none
  else match s.toList with
    | [] => none
    | ['*'] => some { path := "*", query := "" }
    | '/' :: rest => ofPath? ('/' :: rest)
    | cs => ofServer? cs

end Target

/-- The value of a hexadecimal digit, given as a byte. -/
def hexByte? (b : Nat) : Option Nat :=
  if 0x30 ≤ b ∧ b ≤ 0x39 then some (b - 0x30)
  else if 0x41 ≤ b ∧ b ≤ 0x46 then some (b - 0x41 + 10)
  else if 0x61 ≤ b ∧ b ≤ 0x66 then some (b - 0x61 + 10)
  else none

/-- The bytes with every complete percent sequence replaced by the byte it stands for. -/
def percentDecode : Utf8.Bytes → Utf8.Bytes
  | [] => []
  | 0x25 :: a :: b :: rest =>
    match hexByte? a, hexByte? b with
    | some high, some low => (16 * high + low) :: percentDecode rest
    | _, _ => 0x25 :: percentDecode (a :: b :: rest)
  | b :: rest => b :: percentDecode rest
termination_by bs => bs.length
decreasing_by all_goals simp only [List.length_cons]; omega

/-- The text of a name or value in a query: a plus sign is a blank. -/
def formDecode (s : String) : String :=
  Utf8.decodeLossy (percentDecode ((Utf8.bytes s).map fun b => if b = 0x2B then 0x20 else b))

/-- The text of a part of a path, if its bytes are one. -/
def pathDecode? (s : String) : Option String := Utf8.decode? (percentDecode (Utf8.bytes s))

namespace Target

/-- The parts of the path after its first slash. -/
def segments (t : Target) : List String := (t.path.splitOn "/").drop 1

/-- Name and value of one part of a query. -/
def parameter (s : String) : String × String :=
  let name := s.toList.takeWhile (· != '=')
  let value := (s.toList.drop name.length).drop 1
  (formDecode (String.ofList name), formDecode (String.ofList value))

/-- The names and values of the query in order. -/
def parameters (t : Target) : List (String × String) :=
  ((t.query.splitOn "&").filter fun s => !s.isEmpty).map parameter

end Target

end Sponsorship.Http
