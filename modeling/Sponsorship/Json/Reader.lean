import Sponsorship.Json.Value
import Sponsorship.Keyed
import Sponsorship.Text.Quoted

/-!
# Typed reading

A reader turns a document into a value of a type, in the order of the text.

* `ReadError`: why a document does not fit, and `ReadError.message`.
* `Reader`: readers for texts, truth values, numbers, options, lists and maps.
-/

namespace Sponsorship

open Number Text

/-- Why a document cannot be read as a value. -/
inductive ReadError
  /-- The text is not JSON at the place where the value should be. -/
  | malformed
  | unsuited (found wanted : String)
  /-- A value that can be no name, since it is neither a text nor an object. -/
  | nameless (found : String)
  | unknownName (found : String) (known : List String)
  | missingField (name : String)
  | repeatedField (name : String)
  | outOfRange (found : Int) (wanted : String)
  | tooFewItems (found : Nat) (wanted : String)
  | invalidDate
  deriving DecidableEq, Repr

namespace ReadError

def choice (names : List String) : String :=
  match names.map fun n => "`" ++ n ++ "`" with
  | [] => "there are no variants"
  | [a] => "expected " ++ a
  | [a, b] => "expected " ++ a ++ " or " ++ b
  | many => "expected one of " ++ ", ".intercalate many

def message : ReadError → String
  | .malformed => "expected value"
  | .unsuited found wanted => "invalid type: " ++ found ++ ", expected " ++ wanted
  | .nameless found => "invalid type: " ++ found ++ ", expected string or map"
  | .unknownName found known => "unknown variant `" ++ found ++ "`, " ++ choice known
  | .missingField name => "missing field `" ++ name ++ "`"
  | .repeatedField name => "duplicate field `" ++ name ++ "`"
  | .outOfRange found wanted =>
    "invalid value: integer `" ++ toString found ++ "`, expected " ++ wanted
  | .tooFewItems found wanted => "invalid length " ++ toString found ++ ", expected " ++ wanted
  | .invalidDate => "input contains invalid characters"

end ReadError

namespace Document

def described : Document → String
  | .null => "null"
  | .bool b => "boolean `" ++ toString b ++ "`"
  | .number (.integer n) => "integer `" ++ toString n ++ "`"
  | .number n => "floating point `" ++ n.toDouble.pointed ++ "`"
  | .string s => "string " ++ quoted (s.getD "")
  | .array _ _ => "sequence"
  | .object _ _ => "map"
  | .broken => "nothing"

/-- The error of a document that is of another kind than wanted. A text that is not JSON shows
only where the document has to be read to tell its kind. -/
def mismatch (wanted : String) (d : Document) : ReadError :=
  match d with
  | .broken | .string none => .malformed
  | .number n => if n.isOverflow then .malformed else .unsuited d.described wanted
  | d => .unsuited d.described wanted

mutual

/-- Whether a document that nobody asked for can be passed over. -/
def isSkippable : Document → Bool
  | .broken => false
  | .array items closed => areSkippable items && closed
  | .object entries closed => haveSkippable entries && closed
  | _ => true

def areSkippable : List Document → Bool
  | [] => true
  | d :: ds => d.isSkippable && areSkippable ds

def haveSkippable : List (Option String × Document) → Bool
  | [] => true
  | (_, d) :: rest => d.isSkippable && haveSkippable rest

end

end Document

abbrev Reader (α : Type) := Document → Except ReadError α

namespace Reader

def text : Reader String
  | .string (some s) => .ok s
  | d => .error (d.mismatch "a string")

def bool : Reader Bool
  | .bool b => .ok b
  | d => .error (d.mismatch "a boolean")

/-- An integer from `low` to `high`; `wanted` names the range. -/
def integer (low high : Int) (wanted : String) : Reader Int
  | .number (.integer n) =>
    if low ≤ n ∧ n ≤ high then .ok n
    else if Json.Number.isWord n then .error (.outOfRange n wanted)
    else .error (.unsuited (Document.number (.decimal (n < 0) n.natAbs 0)).described wanted)
  | d => .error (d.mismatch wanted)

def int16 : Reader Int := integer (-0x8000) 0x7fff "i16"
def int64 : Reader Int := integer (-0x8000000000000000) 0x7fffffffffffffff "i64"
def nat32 : Reader Nat := fun d => (integer 0 0xffffffff "u32" d).map Int.toNat
def nat64 : Reader Nat := fun d => (integer 0 0xffffffffffffffff "u64" d).map Int.toNat

def single : Reader Single
  | .number n => if n.isOverflow then .error .malformed else .ok n.toSingle
  | d => .error (d.mismatch "f32")

def double : Reader Double
  | .number n => if n.isOverflow then .error .malformed else .ok n.toDouble
  | d => .error (d.mismatch "f64")

/-- Null, or a value. -/
def optional {α : Type} (r : Reader α) : Reader (Option α)
  | .null => .ok none
  | d => (r d).map some

/-- A list; its items are read up to the first that does not fit. -/
def list {α : Type} (r : Reader α) : Reader (List α)
  | .array items closed => do
    let values ← items.mapM r
    if closed then return values else throw .malformed
  | d => .error (d.mismatch "a sequence")

def pairs {α : Type} (r : Reader α) : Reader (List (String × α))
  | .object entries closed => do
    let values ← entries.mapM fun (key, d) =>
      match key with
      | some key => (r d).map fun a => (key, a)
      | none => throw .malformed
    if closed then return values else throw .malformed
  | d => .error (d.mismatch "a map")

/-- A map with texts as keys; of two entries with one key the later counts. -/
def keyed {α : Type} (r : Reader α) : Reader (Keyed String α) := fun d =>
  (pairs r d).map Keyed.ofList

/-- One of a list of named values. A name may also be written as an object whose only key is the
name and whose value is null. -/
def named {α : Type} (known : List (String × α)) : Reader α
  | .string (some s) => find s
  | .string none | .broken => .error .malformed
  | .object [] _ => .error .malformed
  | .object ((none, _) :: _) _ => .error .malformed
  | .object ((some s, d) :: rest) closed => do
    let a ← find s
    match d with
    | .null => if rest.isEmpty && closed then return a else throw .malformed
    | d => throw (d.mismatch "unit")
  | d => .error (.nameless d.described)
where
  find (s : String) : Except ReadError α :=
    match known.find? fun e => e.1 == s with
    | some e => .ok e.2
    | none => .error (.unknownName s (known.map Prod.fst))

end Reader

end Sponsorship
