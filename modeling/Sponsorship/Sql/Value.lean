import Sponsorship.Wire.Basic

/-!
# Column values

* `Value`: what a statement sends as a parameter.
* `Value.shown`: the value as it is sent and as the column gives it back.
* `Field`: a value under the name of its column.
* `Row`: the values of a row, in the order in which they were asked for.
-/

namespace Sponsorship.Sql

open Number Time

inductive Value
  | null
  | text (value : String)
  | bool (value : Bool)
  | integer (value : Int)
  | single (value : Single)
  | double (value : Double)
  | instant (value : Instant)
  | json (value : Json)
  | texts (values : List String)
  | integers (values : List Int)

namespace Value

variable {α : Type} {kind : Named}

def id (i : Id kind) : Value := .text i.text

def ids (is : List (Id kind)) : Value := .texts (is.map Id.text)

/-- A word is stored as its code. -/
def word [Coded α] (a : α) : Value := .integer (code a)

def orNull (f : α → Value) : Option α → Value
  | some a => f a
  | none => .null

/-- The value in the column. Instants are kept in whole microseconds. -/
def shown : Value → Json
  | .null => .null
  | .text s => .string s
  | .bool b => .bool b
  | .integer n => .int n
  | .single x => .ofSingle x
  | .double x => .ofDouble x
  | .instant t => .instant t.cutToMicroseconds
  | .json v => v
  | .texts ss => .ofTexts ss
  | .integers ns => .list .int ns

end Value

/-- A value and the name of its column. -/
structure Field where
  column : String
  value : Value

abbrev Row := List Json

end Sponsorship.Sql
