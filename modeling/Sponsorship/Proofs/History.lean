import Sponsorship.Proofs.Ends
import Sponsorship.Store.Memory

/-!
# Sponsorship.Proofs.History

Histories of commands on the store in memory.

* `Occasion`: what a command meets, the clock and the catalog of the moment among it.
* `Visit`, `World.after`: a command on an occasion, and the world after a list of them.
* `World.start`: nothing is stored yet and identifiers are numbered.
* `transact_memory`: a unit of work in memory.
* `Sometime P history`: a command of the history, with the world that it met, satisfies `P`.
* `reviewingRequest`, `visitAt`: a campaign and commands for histories that are looked at in full.
-/

namespace Sponsorship

open Time

/-- What a command meets. The catalog may reply anything, but it leaves the store alone. -/
structure Occasion where
  now : Instant
  assigneeCap : Nat
  catalog : Catalog Memory
  detached : ∀ key m, (catalog.get key m).2 = m

def Occasion.service (o : Occasion) : Service Memory Tables :=
  { store := .memory, catalog := o.catalog, assigneeCap := o.assigneeCap, now := o.now }

/-- A command on an occasion. -/
structure Visit extends Occasion where
  command : Command

/-- The world after a visit, whether the command succeeds or fails. -/
def Visit.apply (v : Visit) (w : World Memory) : World Memory := (v.service.run v.command w).2

namespace World

/-- Nothing is stored, and identifiers are numbered from the first. -/
def start : World Memory := { ids := .counting, state := {} }

/-- The world after a history. -/
def after (w : World Memory) (history : List Visit) : World Memory :=
  history.foldl (fun w v => v.apply w) w

/-- What a unit of work starts from. -/
def unit (w : World Memory) : World Tables := { ids := w.ids, state := w.state.tables }

theorem after_append (w : World Memory) (h h' : List Visit) :
    w.after (h ++ h') = (w.after h).after h' := List.foldl_append

theorem after_concat (w : World Memory) (history : List Visit) (v : Visit) :
    w.after (history ++ [v]) = v.apply (w.after history) := after_append w history [v]

/-- What holds at the start and is kept by every visit holds after every history. -/
theorem after_induction {P : World Memory → Prop} (hstep : ∀ w (v : Visit), P w → P (v.apply w))
    {w : World Memory} (hw : P w) (history : List Visit) : P (w.after history) := by
  induction history generalizing w with
  | nil => exact hw
  | cons v rest ih => exact ih (hstep w v hw)

end World

/-- A unit of work in memory takes the place of the shared tables if it succeeds, and leaves them
alone if it fails. -/
theorem transact_memory {α : Type} (body : Task Tables α) (w : World Memory) :
    Store.memory.transact body w = match body w.unit with
      | (.ok a, u) => (.ok a, { ids := u.ids, state := ⟨u.state, w.state.commits + 1⟩ })
      | (.error f, u) => (.error f, { ids := u.ids, state := w.state }) := by
  rcases hb : body w.unit with ⟨r, u⟩
  have hb' : body { ids := w.ids, state := w.state.tables } = (r, u) := hb
  simp only [Store.transact, Store.memory, hb']
  cases r <;> rfl

/-! ## Commands of a history -/

/-- Some command of a history and the world that it met. -/
def Sometime (P : World Memory → Visit → Prop) (history : List Visit) : Prop :=
  ∃ past v future, history = past ++ v :: future ∧ P (World.start.after past) v

namespace Sometime

variable {P : World Memory → Visit → Prop} {history : List Visit} {v : Visit}

theorem concat (h : Sometime P history) : Sometime P (history ++ [v]) := by
  obtain ⟨past, met, future, rfl, hp⟩ := h
  exact ⟨past, met, future ++ [v], by simp, hp⟩

theorem last (h : P (World.start.after history) v) : Sometime P (history ++ [v]) :=
  ⟨history, v, [], rfl, h⟩

end Sometime

/-! ## A campaign to begin with -/

/-- A campaign that reviews articles, with one assignee. -/
def reviewingRequest : SaveRequest :=
  { id := none, name := "name", item := ⟨"item"⟩, variant := none, hasCoupon := false,
    banner := none, special := {}, flags := { needsAfterReview := true }, target := .undefined,
    texts := { productFeatures := "features", cautionaryPoints := "points",
               referenceInfo := "reference", otherInfo := "other" },
    mail := {}, isClosed := false,
    schedules := [⟨none, .invitation, some ⟨0, 0⟩, some ⟨1, 0⟩⟩,
      ⟨none, .articlePosting, some ⟨0, 0⟩, some ⟨1, 0⟩⟩, ⟨none, .payment, none, some ⟨1, 0⟩⟩],
    assignees := [{ blogger := ⟨"blogger"⟩, stage := .beforeInvitation }], questionnaire := none,
    drafted := { name := "name", contentName := "content", imageUrl := "image", url := "url",
                 minimum := .unknown, maximum := .unknown } }

/-- A command at a time, with a catalog that knows one item. -/
def visitAt (seconds : Int) (command : Command) : Visit :=
  { now := ⟨seconds, 0⟩, assigneeCap := standardAssigneeCap, detached := fun _ _ => rfl, command,
    catalog := .shelf { items := Keyed.ofList [(⟨"item"⟩, .placeholder ⟨"item"⟩)] } }

end Sponsorship
