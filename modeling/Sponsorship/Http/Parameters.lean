import Sponsorship.Http.Message
import Sponsorship.Settings

/-!
# Query parameters

A parameter that is known may be given once; others are passed over.

* `Parameters`: the names and values of a query.
* `Parameters.single?`: the value of a parameter.
* `Parameters.optional`, `Parameters.required`, `Parameters.defaulting`: typed values.
-/

namespace Sponsorship.Http

open Time

abbrev Parameters := List (String × String)

namespace Parameters

variable {α : Type}

abbrev Value (α : Type) := String → Option α

def text : Value String := some

def nat32 : Value Nat := fun s => (readNatural 0xffffffff s).toOption

def bool : Value Bool := fun s => (readBool s).toOption

def word [Vocabulary α] : Value α := Vocabulary.ofWire?

def instant : Value Instant := Instant.parse?

/-- The value of a parameter that is given once at most. -/
def single? (ps : Parameters) (name : String) : Except Refusal (Option String) :=
  match ps.filter fun p => p.1 = name with
  | [] => .ok none
  | [p] => .ok (some p.2)
  | _ => .error .badQuery

def optional (ps : Parameters) (name : String) (read : Value α) : Except Refusal (Option α) := do
  match ← ps.single? name with
  | none => return none
  | some s =>
    match read s with
    | some a => return some a
    | none => throw .badQuery

def required (ps : Parameters) (name : String) (read : Value α) : Except Refusal α := do
  match ← ps.optional name read with
  | some a => return a
  | none => throw .badQuery

/-- A parameter with a value of its own. -/
def defaulting (ps : Parameters) (name : String) (read : Value α) (a : α) : Except Refusal α :=
  return (← ps.optional name read).getD a

end Parameters

end Sponsorship.Http
