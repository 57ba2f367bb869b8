import Sponsorship.Sql.Statement

/-!
# Links to a database

* `Link`: where statements are sent, over a state `σ` of the connection.
* `Rejection.fault`: what a failed statement means.
* `Exchange`: work that sends statements and may fail.
* `Link.all`, `Link.first?`, `Link.only`, `Link.write`: send a statement and read the reply.
-/

namespace Sponsorship.Sql

/-- Why the database did not carry out a statement: a code of five characters and a text. -/
structure Rejection where
  code : String
  text : String
  deriving DecidableEq, Repr

/-- What the database answers: rows, or how many rows were written. -/
structure Reply where
  rows : List Row := []
  affected : Nat := 0

structure Link (σ : Type) where
  send : Statement → σ → Except Rejection Reply × σ

/-- The code of a failure to put concurrent units of work in an order. -/
def serializationFailure : String := "40001"

/-- The code of a key that is there already. -/
def uniqueViolation : String := "23505"

/-- What a failed statement means: another unit of work won, a key is taken, or the database is out
of order. -/
def Rejection.fault (r : Rejection) : Fault :=
  if r.code = serializationFailure then .conflict .concurrentUpdate
  else if r.code = uniqueViolation then .conflict (.duplicateKey r.text)
  else .infrastructure (.database r.text)

abbrev Exchange (σ α : Type) := ExceptT Fault (StateM σ) α

def readable {σ α : Type} (r : Except Outage α) : Exchange σ α :=
  fun s => (r.mapError .infrastructure, s)

namespace Link

variable {σ α : Type}

def exchange (l : Link σ) (s : Statement) : Exchange σ Reply := fun c =>
  let (r, c) := l.send s c
  (r.mapError Rejection.fault, c)

def all (l : Link σ) (s : Selection) (cs : Columns α) : Exchange σ (List α) := do
  let reply ← l.exchange (.select s)
  readable (reply.rows.mapM cs.read)

/-- The first row of a selection, if there is one. -/
def first? (l : Link σ) (s : Selection) (cs : Columns α) : Exchange σ (Option α) := do
  let reply ← l.exchange (.select s)
  match reply.rows with
  | [] => return none
  | row :: _ => return some (← readable (cs.read row))

/-- The row of a selection that always has one. -/
def only (l : Link σ) (s : Selection) (cs : Columns α) : Exchange σ α := do
  match ← l.first? s cs with
  | some a => return a
  | none => throw (.infrastructure .noRow)

def write (l : Link σ) (s : Statement) : Exchange σ Unit := do
  let _ ← l.exchange s

def writeAll (l : Link σ) : List Statement → Exchange σ Unit
  | [] => return ()
  | s :: rest => do
    l.write s
    l.writeAll rest

/-- Changes a row that has to be there. -/
def change (l : Link σ) (s : Statement) (missing : Absent) : Exchange σ Unit := do
  let reply ← l.exchange s
  if reply.affected = 0 then throw (.notFound missing)

def isReachable (l : Link σ) : StateM σ Bool := fun c =>
  let (r, c) := l.send .probe c
  (r.isOk, c)

end Link

end Sponsorship.Sql
