import Sponsorship.Json.Reader

/-!
# Reading records

A record is read from an object or, with its fields in their declared order, from an array. The
entries of an object are read in the order of the text, so of several failures the one that comes
first in the text counts; fields that are missing show only at the end.

* `Record`: the fields of a record, combined by `<$>` and `<*>` in their declared order.
* `Record.required`, `Record.optional`, `Record.defaulting`: one field.
* `Record.reader`: the reader of the whole record.
-/

namespace Sponsorship

/-- A value, or a failure with the position of the entry where it shows. -/
abbrev Placed (α : Type) := Except (Nat × ReadError) α

namespace Placed

variable {α β : Type}

/-- Of two failures the one that shows first. -/
def both (f : Placed (α → β)) (x : Placed α) : Placed β :=
  match f, x with
  | .ok f, .ok a => .ok (f a)
  | .error e, .ok _ => .error e
  | .ok _, .error e => .error e
  | .error e, .error e' => .error (if e'.1 < e.1 then e' else e)

def andAlso (check : Placed Unit) (x : Placed α) : Placed α := both (check.map fun _ a => a) x

end Placed

/-- The items of an array that are still to be read. -/
structure Items where
  rest : List Document
  closed : Bool
  taken : Nat := 0

abbrev Entries := List (Option String × Document)

/-- Reads a record from an object or from an array. -/
structure Record (α : Type) where
  names : List String
  ofEntries : Entries → Placed α
  ofItems : (wanted : String) → Items → Except ReadError (α × Items)

namespace Record

variable {α β : Type}

instance : Functor Record where
  map f r :=
    { names := r.names
      ofEntries := fun es => (r.ofEntries es).map f
      ofItems := fun wanted items => (r.ofItems wanted items).map fun (a, items) => (f a, items) }

instance : Applicative Record where
  pure a := { names := [], ofEntries := fun _ => .ok a, ofItems := fun _ items => .ok (a, items) }
  seq f r :=
    { names := f.names ++ (r ()).names
      ofEntries := fun es => (f.ofEntries es).both ((r ()).ofEntries es)
      ofItems := fun wanted items => do
        let (f, items) ← f.ofItems wanted items
        let (a, items) ← (r ()).ofItems wanted items
        return (f a, items) }

/-- The entries with key `name`, with their positions. -/
def occurrences (name : String) (es : Entries) : List (Nat × Document) :=
  es.zipIdx.filterMap fun ((key, d), i) => if key = some name then some (i, d) else none

/-- A field; `absent` is its value when an object, `short` when an array does not have it. -/
def field (name : String) (r : Reader α) (absent short : Option α) : Record α where
  names := [name]
  ofEntries es :=
    let read (i : Nat) (d : Document) : Placed α := (r d).mapError fun e => (i, e)
    match occurrences name es with
    | [] =>
      match absent with
      | some a => .ok a
      | none => .error (es.length, .missingField name)
    | [(i, d)] => read i d
    | (i, d) :: (j, _) :: _ => Placed.andAlso (.error (j, .repeatedField name)) (read i d)
  ofItems wanted items :=
    match items.rest with
    | d :: rest => (r d).map fun a => (a, { items with rest, taken := items.taken + 1 })
    | [] =>
      if items.closed then
        match short with
        | some a => .ok (a, items)
        | none => .error (.tooFewItems items.taken wanted)
      else .error .malformed

def required (name : String) (r : Reader α) : Record α := field name r none none

/-- A field that has a value of its own when it is left out. -/
def defaulting (name : String) (r : Reader α) (a : α) : Record α := field name r (some a) (some a)

/-- A field that may be left out or null. -/
def optional (name : String) (r : Reader α) : Record (Option α) :=
  field name (Reader.optional r) (some none) (some none)

/-- A field that may be null, and left out of an object but not of an array. -/
def nullable (name : String) (r : Reader α) : Record (Option α) :=
  field name (Reader.optional r) (some none) none

/-- Entries with other keys are passed over when they can be. -/
def strayEntries (names : List String) (es : Entries) : Placed Unit :=
  match es.zipIdx.find? fun ((key, d), _) =>
      match key with
      | none => true
      | some key => !names.contains key && !d.isSkippable with
  | some (_, i) => .error (i, .malformed)
  | none => .ok ()

def reader (title : String) (r : Record α) : Reader α
  | .object es closed =>
    let ending : Placed Unit := if closed then .ok () else .error (es.length, .malformed)
    ((strayEntries r.names es).andAlso (ending.andAlso (r.ofEntries es))).mapError Prod.snd
  | .array rest closed => do
    let wanted := "struct " ++ title ++ " with " ++ toString r.names.length ++
      (if r.names.length = 1 then " element" else " elements")
    let (a, items) ← r.ofItems wanted { rest, closed }
    if items.rest.isEmpty && closed then return a else throw .malformed
  | d => .error (d.mismatch ("struct " ++ title))

end Record

end Sponsorship
