import Sponsorship.Number.Shortest

/-!
# JSON values

* `Number`: an integer, a decimal as it was written, or a binary number.
* `Json`: the values that are written.
* `Document`: a text as it was read. A text may break off, so arrays and objects record whether
  they were closed, and a string whose escapes name no character has no value.
* `Json.document`: the document that a value is read back as.
-/

namespace Sponsorship

open Number

/-- A number in JSON. A literal with a fraction, an exponent or a negative zero is a decimal. -/
inductive Json.Number
  | integer (value : Int)
  | decimal (negative : Bool) (digits : Nat) (exponent : Int)
  | single (value : Single)
  | double (value : Double)
  deriving DecidableEq, Repr

/-- A JSON value; the fields of an object keep their order. -/
inductive Json
  | null
  | bool (value : Bool)
  | number (value : Json.Number)
  | string (value : String)
  | array (items : List Json)
  | object (fields : List (String × Json))
  deriving Repr, Inhabited

/-- A JSON text as far as it could be read. -/
inductive Document
  | null
  | bool (value : Bool)
  | number (value : Json.Number)
  | string (value : Option String)
  | array (items : List Document) (closed : Bool)
  | object (entries : List (Option String × Document)) (closed : Bool)
  /-- The text ends here, or goes on with something that is no value. -/
  | broken
  deriving Repr, Inhabited

namespace Json

mutual

def document : Json → Document
  | .null => .null
  | .bool b => .bool b
  | .number n => .number n
  | .string s => .string (some s)
  | .array items => .array (documents items) true
  | .object fields => .object (entries fields) true

def documents : List Json → List Document
  | [] => []
  | v :: vs => v.document :: documents vs

def entries : List (String × Json) → List (Option String × Document)
  | [] => []
  | (k, v) :: rest => (some k, v.document) :: entries rest

end

mutual

/-- The value of a document that is complete. -/
def ofDocument? : Document → Option Json
  | .null => some .null
  | .bool b => some (.bool b)
  | .number n => some (.number n)
  | .string s => s.map .string
  | .array items closed => if closed then (ofDocuments? items).map .array else none
  | .object entries closed => if closed then (ofEntries? entries).map .object else none
  | .broken => none

def ofDocuments? : List Document → Option (List Json)
  | [] => some []
  | d :: ds => do return (← ofDocument? d) :: (← ofDocuments? ds)

def ofEntries? : List (Option String × Document) → Option (List (String × Json))
  | [] => some []
  | (k, d) :: rest => do return (← k, ← ofDocument? d) :: (← ofEntries? rest)

end

def int (n : Int) : Json := .number (.integer n)

def nat (n : Nat) : Json := .number (.integer n)

/-- A number of 32 bits; an infinity has no number and becomes null. -/
def ofSingle (x : Single) : Json := if x.isFinite then .number (.single x) else .null

/-- A number of 64 bits; an infinity has no number and becomes null. -/
def ofDouble (x : Double) : Json := if x.isFinite then .number (.double x) else .null

def ofText? : Option String → Json
  | some s => .string s
  | none => .null

def ofTexts (ss : List String) : Json := .array (ss.map .string)

end Json

namespace Json.Number

def toDouble : Json.Number → Double
  | .integer n => Format.double.ofInt n
  | .decimal negative digits exponent => Format.double.ofDecimal negative digits exponent
  | .single x => x.convert .double
  | .double x => x

/-- Whether an integer fits 64 bits with or without sign; larger ones are read as decimals. -/
def isWord (n : Int) : Bool := -0x8000000000000000 ≤ n && n ≤ 0xffffffffffffffff

/-- The number as one of 32 bits; a decimal is rounded to 64 bits first. -/
def toSingle : Json.Number → Single
  | .integer n => if isWord n then Format.single.ofInt n else (Format.double.ofInt n).convert .single
  | .single x => x
  | n => n.toDouble.convert .single

/-- Whether the number is too large for 64 bits. -/
def isOverflow (n : Json.Number) : Bool := !n.toDouble.isFinite

end Json.Number

end Sponsorship
