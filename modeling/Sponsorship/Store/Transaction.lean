import Sponsorship.Store.Call

/-!
# Units of work

* `Task`: work on a state that may fail and takes identifiers.
* `Store`: units of work over a state `σ`; `υ` is what a unit holds while it runs.
* `Store.transact`: run a task as one unit, which is committed if it succeeds and abandoned if not.
-/

namespace Sponsorship

/-- A state and the identifiers that are left. -/
structure World (σ : Type) where
  ids : Ids
  state : σ

abbrev Task (σ α : Type) := ExceptT Fault (StateM (World σ)) α

namespace Task

variable {σ α : Type}

/-- Work that only takes identifiers. -/
def ofMinting (m : Minting α) : Task σ α := fun w =>
  let (r, ids) := m w.ids
  (r, { w with ids })

def ofExcept (r : Except Fault α) : Task σ α := fun w => (r, w)

def obey (r : Except Violation α) : Task σ α := ofExcept (r.mapError .validation)

def mint (kind : Named) : Task σ (Id kind) := ofMinting (Minting.mint kind)

/-- Work that takes no identifiers. -/
def ofState (f : σ → Except Fault α × σ) : Task σ α := fun w =>
  let (r, state) := f w.state
  (r, { w with state })

end Task

/-- Units of work over `σ`. -/
structure Store (σ υ : Type) where
  /-- Opens a unit. -/
  begin : σ → Except Fault υ × σ
  /-- Answers a call within a unit. -/
  perform : (c : Call) → υ → Except Fault c.Reply × υ
  /-- Makes what a unit wrote part of the state. -/
  commit : υ → σ → Except Fault Unit × σ
  /-- Gives up a unit. -/
  abandon : υ → σ → σ

namespace Store

variable {σ υ α : Type}

/-- A call as a task of a unit. -/
def call (s : Store σ υ) (c : Call) : Task υ c.Reply := Task.ofState (s.perform c)

/-- Runs a task as one unit. Identifiers that it took stay taken. -/
def transact (s : Store σ υ) (body : Task υ α) : Task σ α := fun w =>
  match s.begin w.state with
  | (.error fault, state) => (.error fault, { w with state })
  | (.ok unit, state) =>
    match body { ids := w.ids, state := unit } with
    | (.error fault, inner) =>
      (.error fault, { ids := inner.ids, state := s.abandon inner.state state })
    | (.ok a, inner) =>
      let (committed, state) := s.commit inner.state state
      (committed.map fun _ => a, { ids := inner.ids, state })

/-- The answers to calls in a row; a call that fails does not stop the next. -/
def performAll (s : Store σ υ) : List Call → υ → List ((c : Call) × Except Fault c.Reply) × υ
  | [], unit => ([], unit)
  | c :: cs, unit =>
    let (reply, unit) := s.perform c unit
    let (replies, unit) := s.performAll cs unit
    (⟨c, reply⟩ :: replies, unit)

/-- Calls in one unit, which is committed if `keep` says so and abandoned if not. -/
def trial (s : Store σ υ) (calls : List Call) (keep : Bool) :
    Task σ (List ((c : Call) × Except Fault c.Reply)) := fun w =>
  match s.begin w.state with
  | (.error fault, state) => (.error fault, { w with state })
  | (.ok unit, state) =>
    let (replies, unit) := s.performAll calls unit
    if keep then
      let (committed, state) := s.commit unit state
      (committed.map fun _ => replies, { w with state })
    else (.ok replies, { w with state := s.abandon unit state })

/-- A store that cannot be reached. -/
def unreachable : Store σ Empty where
  begin state := (.error (.infrastructure .refused), state)
  perform _ unit := nomatch unit
  commit unit _ := nomatch unit
  abandon unit _ := nomatch unit

end Store

end Sponsorship
