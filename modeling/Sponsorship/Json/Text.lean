import Sponsorship.Json.Value

/-!
# Writing JSON text

* `Json.text`: the text of a value, without blanks.
-/

namespace Sponsorship.Json

/-- A character of a string: quotes, backslashes and control characters are escaped. -/
def charText (c : Char) : List Char :=
  if c = '"' then ['\\', '"']
  else if c = '\\' then ['\\', '\\']
  else if c = '\n' then ['\\', 'n']
  else if c = '\r' then ['\\', 'r']
  else if c = '\t' then ['\\', 't']
  else if c.toNat < 0x20 then
    let digits := Nat.toDigits 16 c.toNat
    ['\\', 'u'] ++ List.replicate (4 - digits.length) '0' ++ digits
  else [c]

def stringText (s : String) : String := String.ofList ('"' :: s.toList.flatMap charText ++ ['"'])

/-- A number; one that is no integer is written with the fewest digits that read back, and always
with a point. -/
def Number.text : Json.Number → String
  | .integer n => toString n
  | .single x => x.pointed
  | n => n.toDouble.pointed

mutual

def text : Json → String
  | .null => "null"
  | .bool b => toString b
  | .number n => n.text
  | .string s => stringText s
  | .array items => "[" ++ itemTexts items ++ "]"
  | .object fields => "\x7b" ++ fieldTexts fields ++ "\x7d"

def itemTexts : List Json → String
  | [] => ""
  | [v] => v.text
  | v :: vs => v.text ++ "," ++ itemTexts vs

def fieldTexts : List (String × Json) → String
  | [] => ""
  | [(k, v)] => stringText k ++ ":" ++ v.text
  | (k, v) :: rest => stringText k ++ ":" ++ v.text ++ "," ++ fieldTexts rest

end

end Sponsorship.Json
