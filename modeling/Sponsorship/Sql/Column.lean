import Sponsorship.Fault
import Sponsorship.Json.Place
import Sponsorship.Json.Text
import Sponsorship.Sql.Value

/-!
# Reading rows

* `Table`: the tables, by name.
* `Column`: what is selected, and the label under which a value that cannot be read is reported.
* `Cell`: reads a value of one type.
* `Columns`: several columns, combined by `<$>` and `<*>` in the order in which they are selected.
* `decoded`: the word with a stored code.
-/

namespace Sponsorship.Sql

open Number Text Time

inductive Table
  | campaign
  | drafted
  | schedule
  | assignee
  | examination
  | questionnaire
  | question
  | answer
  | catalog
  deriving DecidableEq, Repr

namespace Table

def name : Table → String
  | .campaign => "offer_item"
  | .drafted => "drafted_item_info"
  | .schedule => "schedule"
  | .assignee => "assignee"
  | .examination => "examination"
  | .questionnaire => "questionnaire"
  | .question => "questionnaire_question"
  | .answer => "questionnaire_question_answer"
  | .catalog => "catalog_item"

/-- What stands before a column of the table in a statement; tables that are joined have names of
one letter. -/
def qualifier : Table → String
  | .campaign => "o."
  | .drafted => "d."
  | .assignee => "a."
  | _ => ""

end Table

inductive Column
  /-- A column of a table, perhaps under a name of its own. -/
  | stored (table : Table) (name : String) (shownAs : Option String)
  /-- A value that is computed. -/
  | computed (text label : String)
  deriving DecidableEq, Repr

namespace Column

/-- The text between the commas of a list. -/
def text : Column → String
  | .stored table name none => table.qualifier ++ name
  | .stored table name (some shownAs) => table.qualifier ++ name ++ " AS " ++ shownAs
  | .computed text _ => text

def label : Column → String
  | .stored _ name shownAs => quoted (shownAs.getD name)
  | .computed _ label => label

end Column

/-- Reads the value of a column, or says why it cannot be read. -/
abbrev Cell (α : Type) := Json → Except String α

namespace Cell

variable {α : Type}

/-- What is wrong with a value of another type. -/
def mismatch : Json → String
  | .null => "unexpected null; try decoding as an `Option`"
  | _ => "mismatched types"

def text : Cell String
  | .string s => .ok s
  | v => .error (mismatch v)

def id {kind : Named} : Cell (Id kind) := fun v => (text v).map Id.mk

def bool : Cell Bool
  | .bool b => .ok b
  | v => .error (mismatch v)

def integer : Cell Int
  | .number (.integer n) => .ok n
  | v => .error (mismatch v)

def single : Cell Single
  | .number n => .ok n.toSingle
  | v => .error (mismatch v)

def double : Cell Double
  | .number n => .ok n.toDouble
  | v => .error (mismatch v)

/-- A timestamp in whole microseconds. -/
def instant : Cell Instant
  | .string s =>
    match Instant.parse? s with
    | some t => .ok t.floorToMicroseconds
    | none => .error (mismatch (.string s))
  | v => .error (mismatch v)

/-- A value that is stored as a document. -/
def document (r : Reader α) : Cell α
  | .null => .error (mismatch .null)
  | v => (r v.document).mapError fun e => r.report v.text e

def optional (c : Cell α) : Cell (Option α)
  | .null => .ok none
  | v => (c v).map some

end Cell

structure Columns (α : Type) where
  columns : List Column
  take : Row → Except Outage (α × Row)

namespace Columns

variable {α β : Type}

instance : Functor Columns where
  map f cs :=
    { columns := cs.columns
      take := fun row => (cs.take row).map fun (a, rest) => (f a, rest) }

instance : Applicative Columns where
  pure a := { columns := [], take := fun row => .ok (a, row) }
  seq f cs :=
    { columns := f.columns ++ (cs ()).columns
      take := fun row => do
        let (f, row) ← f.take row
        let (a, row) ← (cs ()).take row
        return (f a, row) }

def one (column : Column) (cell : Cell α) : Columns α where
  columns := [column]
  take
    | [] => .error (.undecoded column.label "no value")
    | v :: rest =>
      match cell v with
      | .ok a => .ok (a, rest)
      | .error text => .error (.undecoded column.label text)

def of (table : Table) (name : String) (cell : Cell α) : Columns α :=
  one (.stored table name none) cell

/-- A column of a table under a name of its own. -/
def named (table : Table) (name shownAs : String) (cell : Cell α) : Columns α :=
  one (.stored table name (some shownAs)) cell

/-- The only column of a row, without a name. -/
def sole (text : String) (cell : Cell α) : Columns α := one (.computed text "0") cell

def text (cs : Columns α) : String := ", ".intercalate (cs.columns.map Column.text)

def read (cs : Columns α) (row : Row) : Except Outage α := (cs.take row).map Prod.fst

end Columns

/-- The word with a code that is stored in a column. -/
def decoded {α : Type} [Coded α] (column : String) (n : Int) : Except Outage α :=
  (Coded.ofCode n).mapError fun v => .corrupt column (.code v)

end Sponsorship.Sql
