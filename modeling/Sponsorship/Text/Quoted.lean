import Sponsorship.Text.Table.GraphemeExtend
import Sponsorship.Text.Table.Unprintable

/-!
# Quoted text

The form in which a text that a client sent is shown inside a message: between double quotes, with
escapes for what would not be seen as itself.

* `quoted`: the quoted form of a text.
-/

namespace Sponsorship.Text

/-- A code point by its number, as few lower case hexadecimal digits as will hold it. -/
def numbered (c : Char) : List Char :=
  "\\u\x7b".toList ++ Nat.toDigits 16 c.toNat ++ "\x7d".toList

/-- One character of a quoted text. Marks that extend a cluster are shown by number, since they
would merge with the character before them. -/
def quotedChar (c : Char) : List Char :=
  if c = '\x00' then ['\\', '0']
  else if c = '\t' then ['\\', 't']
  else if c = '\r' then ['\\', 'r']
  else if c = '\n' then ['\\', 'n']
  else if c = '"' then ['\\', '"']
  else if c = '\\' then ['\\', '\\']
  else if Table.graphemeExtend.has c || Table.unprintable.has c then numbered c
  else [c]

def quoted (s : String) : String :=
  String.ofList ('"' :: s.toList.flatMap quotedChar ++ ['"'])

end Sponsorship.Text
