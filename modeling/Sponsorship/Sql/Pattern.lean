/-!
# Search patterns

A pattern in which a percent sign stands for any text and an underscore for any character, unless a
backslash comes before it.

* `escaped`: the pattern for a text itself.
* `containing`: the pattern for every text that contains it.
-/

namespace Sponsorship.Sql

def escapedChar (c : Char) : List Char :=
  if c = '\\' ∨ c = '%' ∨ c = '_' then ['\\', c] else [c]

def escaped (cs : List Char) : List Char := cs.flatMap escapedChar

/-- The pattern for every text that contains `s`. -/
def containing (s : String) : String := String.ofList ('%' :: escaped s.toList ++ ['%'])

end Sponsorship.Sql
