import Sponsorship.Sql.Link

/-!
# Scripted connections

A connection whose answers are laid down beforehand, and which notes what it is sent.

* `Script`: the answers that are left, and the notes.
* `Script.link`: the link to it.
-/

namespace Sponsorship.Sql

/-- An answer laid down beforehand. What it does not say has a value of its own: no rows, and one
row written. -/
structure Scripted where
  rejection : Option Rejection := none
  rows : Option (List Row) := none
  affected : Option Nat := none

/-- The reply to a statement that is not rejected. -/
def Scripted.reply (s : Scripted) : Reply :=
  { rows := s.rows.getD [], affected := s.affected.getD 1 }

/-- A connection with answers laid down. Transactions have answers of their own; the others are
given out in order, and the notes are kept newest first. -/
structure Script where
  replies : List Scripted := []
  atBegin : Option Rejection := none
  atIsolation : Option Rejection := none
  atCommit : Option Rejection := none
  notes : List (Statement × Except Rejection Reply) := []

namespace Script

/-- A reply, unless the statement is rejected. -/
def outcome : Option Rejection → Reply → Except Rejection Reply
  | some r, _ => .error r
  | none, reply => .ok reply

/-- The answer to a statement, and the answers that are left. -/
def answer (s : Script) : Statement → Except Rejection Reply × List Scripted
  | .begin => (outcome s.atBegin {}, s.replies)
  | .serializable => (outcome s.atIsolation {}, s.replies)
  | .commit => (outcome s.atCommit {}, s.replies)
  | .rollback => (.ok {}, s.replies)
  | _ =>
    match s.replies with
    | [] => (.ok (Scripted.reply {}), [])
    | next :: rest => (outcome next.rejection next.reply, rest)

def link : Link Script where
  send statement s :=
    let (r, replies) := s.answer statement
    (r, { s with replies, notes := (statement, r) :: s.notes })

def sent (s : Script) : List Statement := s.notes.reverse.map Prod.fst

end Script

end Sponsorship.Sql
