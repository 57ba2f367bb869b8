import Sponsorship.Sql.Selection

/-!
# Statements

* `Statement`: everything that is sent to a database.
* `Statement.text`, `Statement.parameters`: what is sent.
-/

namespace Sponsorship.Sql

inductive Statement
  | begin
  | serializable
  | commit
  | rollback
  /-- Asks for nothing but an answer. -/
  | probe
  | select (selection : Selection)
  /-- Writes a new row. With `keys` the row may be there, and takes the other fields. -/
  | insert (table : Table) (fields : List Field) (keys : List String)
  /-- Changes fields of the row with an identifier. -/
  | update (table : Table) (id : String) (fields : List Field)
  /-- Deletes the rows that have a text in a column. -/
  | delete (table : Table) (column text : String)
  /-- Marks a campaign as deleted. -/
  | retire (id : CampaignId)

/-- The part after which an insertion that meets a row with its keys becomes a change. -/
def overwriteText (fields : List Field) : List String → String
  | [] => ""
  | keys =>
    let others := (fields.map Field.column).filter fun c => !keys.contains c
    " ON CONFLICT (" ++ ", ".intercalate keys ++ ") DO UPDATE SET " ++
      ", ".intercalate (others.map fun c => c ++ " = EXCLUDED." ++ c)

/-- The changes of fields whose first parameter has number `n`. -/
def assignments (n : Nat) (fields : List Field) : String :=
  ", ".intercalate ((fields.zipIdx n).map fun (f, i) => f.column ++ " = " ++ place i)

/-- What is added to a change of a row. Campaigns note when they were changed. -/
def Table.stamp : Table → String
  | .campaign => ", updated_at = NOW()"
  | _ => ""

/-- Which rows can be changed. A campaign that is marked as deleted cannot. -/
def Table.condition : Table → String
  | .campaign => " WHERE id = $1 AND deleted_at IS NULL"
  | _ => " WHERE id = $1"

namespace Statement

def text : Statement → String
  | .begin => "BEGIN"
  | .serializable => "SET TRANSACTION ISOLATION LEVEL SERIALIZABLE"
  | .commit => "COMMIT"
  | .rollback => "ROLLBACK"
  | .probe => "SELECT 1"
  | .select selection => selection.text
  | .insert table fields keys =>
    "INSERT INTO " ++ table.name ++ " (" ++ ", ".intercalate (fields.map Field.column) ++
      ") VALUES (" ++ ", ".intercalate ((fields.zipIdx 1).map fun (_, i) => place i) ++ ")" ++
      overwriteText fields keys
  | .update table _ fields =>
    "UPDATE " ++ table.name ++ " SET " ++ assignments 2 fields ++ table.stamp ++ table.condition
  | .delete table column _ => "DELETE FROM " ++ table.name ++ " WHERE " ++ column ++ " = $1"
  | .retire _ => "UPDATE offer_item SET deleted_at = NOW() WHERE id = $1 AND deleted_at IS NULL"

/-- The parameters in the order of their numbers. -/
def parameters : Statement → List Value
  | .begin | .serializable | .commit | .rollback | .probe => []
  | .select selection => selection.parameters
  | .insert _ fields _ => fields.map Field.value
  | .update _ id fields => .text id :: fields.map Field.value
  | .delete _ _ text => [.text text]
  | .retire id => [.id id]

/-- Whether the statement opens or closes a unit of work. -/
def isBracket : Statement → Bool
  | .begin | .commit | .rollback => true
  | _ => false

end Statement

end Sponsorship.Sql
