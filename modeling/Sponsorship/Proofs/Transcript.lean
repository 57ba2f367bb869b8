import Sponsorship.Command.Basic
import Sponsorship.Proofs.Ends
import Sponsorship.Sql.Products
import Sponsorship.Sql.Script
import Sponsorship.Sql.Store

/-!
# Sponsorship.Proofs.Transcript

What a scripted connection is sent, statement by statement, whatever it answers.

* `OpenUnit unit ns`: `unit` are the notes since the unit of work that is open was opened.
* `Sent fit ns ns'`: the notes grew by statements that were each fit for the notes before it.
* `Sends view fit t ns Q`: begun with the notes `ns`, the work `t` sends fit statements only, whether
  it succeeds or fails; if it succeeds, `Q` holds of its result and of the notes then. One rule for
  each way work is put together and for each way a link is asked.
* `Fits fit t ns`: the same of a task whose result does not matter.
* `Sends.transact`: a unit of work sends fit statements if the task within it does.

Notes are kept newest first.
-/

namespace Sponsorship.Sql

/-- A statement with what was answered. -/
abbrev Note := Statement × Except Rejection Reply

/-- Says which statements may be sent after given notes. -/
abbrev Fitness := List Note → Statement → Prop

/-! ## Notes -/

/-- What was noted since the unit of work that is open was opened. -/
def OpenUnit (unit ns : List Note) : Prop :=
  ∃ opened before, ns = unit ++ (.begin, .ok opened) :: before ∧ ∀ n ∈ unit, n.1.isBracket = false

def IsOpen (ns : List Note) : Prop := ∃ unit, OpenUnit unit ns

/-- A unit of work was opened just now: nothing was sent in it but the wish to be serializable. -/
def JustOpened (ns : List Note) : Prop :=
  ∃ reply opened before, ns = (.serializable, .ok reply) :: (.begin, .ok opened) :: before

/-- A selection returned the row in the unit of work that is open. -/
def Returned (ns : List Note) (s : Selection) (row : Row) : Prop :=
  ∃ unit, OpenUnit unit ns ∧ ∃ reply, (.select s, .ok reply) ∈ unit ∧ row ∈ reply.rows

/-- The values were read from a row that a selection returned in the unit of work that is open. -/
def ReadBy {α : Type} (ns : List Note) (s : Selection) (cs : Columns α) (a : α) : Prop :=
  ∃ row, Returned ns s row ∧ cs.read row = .ok a

/-- The notes grew by statements that were each fit for the notes before it. -/
inductive Sent (fit : Fitness) : List Note → List Note → Prop
  | nothing (ns : List Note) : Sent fit ns ns
  | next {ns ns' : List Note} (h : Sent fit ns ns') (n : Note) (hn : fit ns' n.1) :
      Sent fit ns (n :: ns')

/-- Fit statements that neither open nor close a unit of work. -/
structure Inside (fit : Fitness) (ns : List Note) (st : Statement) : Prop where
  inside : st.isBracket = false
  fit : fit ns st

section Notes

variable {fit fit' : Fitness} {ns ns' ns'' : List Note}

theorem Sent.one (n : Note) (hn : fit ns n.1) : Sent fit ns (n :: ns) := .next (.nothing ns) n hn

theorem Sent.trans (h : Sent fit ns ns') (h' : Sent fit ns' ns'') : Sent fit ns ns'' := by
  induction h' with
  | nothing => exact h
  | next _ n hn ih => exact .next ih n hn

theorem Sent.mono (h : Sent fit ns ns') (hfit : ∀ ns st, fit ns st → fit' ns st) :
    Sent fit' ns ns' := by
  induction h with
  | nothing => exact .nothing _
  | next _ n hn ih => exact .next ih n (hfit _ _ hn)

theorem OpenUnit.next {unit : List Note} (h : OpenUnit unit ns) {n : Note}
    (hn : n.1.isBracket = false) : OpenUnit (n :: unit) (n :: ns) := by
  obtain ⟨opened, before, rfl, hunit⟩ := h
  exact ⟨opened, before, rfl, List.forall_mem_cons.mpr ⟨hn, hunit⟩⟩

/-- Within a unit its notes are only added to. -/
theorem OpenUnit.later {unit : List Note} (h : OpenUnit unit ns) (hs : Sent (Inside fit) ns ns') :
    ∃ more, OpenUnit (more ++ unit) ns' := by
  induction hs with
  | nothing => exact ⟨[], h⟩
  | next _ n hn ih =>
    obtain ⟨more, hmore⟩ := ih
    exact ⟨n :: more, hmore.next hn.inside⟩

theorem JustOpened.openUnit (h : JustOpened ns) :
    ∃ reply, OpenUnit [(.serializable, .ok reply)] ns := by
  obtain ⟨reply, opened, before, rfl⟩ := h
  exact ⟨reply, opened, before, rfl, by simp [Statement.isBracket]⟩

theorem JustOpened.isOpen (h : JustOpened ns) : IsOpen ns := by
  obtain ⟨reply, hu⟩ := h.openUnit
  exact ⟨_, hu⟩

theorem IsOpen.later (h : IsOpen ns) (hs : Sent (Inside fit) ns ns') : IsOpen ns' := by
  obtain ⟨unit, hu⟩ := h
  obtain ⟨more, hmore⟩ := hu.later hs
  exact ⟨_, hmore⟩

theorem Returned.later {s : Selection} {row : Row} (h : Returned ns s row)
    (hs : Sent (Inside fit) ns ns') : Returned ns' s row := by
  obtain ⟨unit, hu, reply, hmem, hrow⟩ := h
  obtain ⟨more, hmore⟩ := hu.later hs
  exact ⟨_, hmore, reply, List.mem_append_right more hmem, hrow⟩

theorem ReadBy.later {α : Type} {s : Selection} {cs : Columns α} {a : α} (h : ReadBy ns s cs a)
    (hs : Sent (Inside fit) ns ns') : ReadBy ns' s cs a := by
  obtain ⟨row, hrow, hread⟩ := h
  exact ⟨row, hrow.later hs, hread⟩

theorem IsOpen.returned {s : Selection} {reply : Reply} {row : Row} (h : IsOpen ns)
    (hrow : row ∈ reply.rows) : Returned ((.select s, .ok reply) :: ns) s row := by
  obtain ⟨unit, hu⟩ := h
  exact ⟨_, hu.next rfl, reply, List.mem_cons_self, hrow⟩

end Notes

/-! ## Work -/

section Work

variable {S α β : Type} {view : S → List Note} {fit : Fitness} {ns : List Note}
  {Q Q' : α → List Note → Prop}

/-- Work that sends fit statements only. If it succeeds, `Q` holds of its result and the notes. -/
def Sends (view : S → List Note) (fit : Fitness) (t : ExceptT Fault (StateM S) α) (ns : List Note)
    (Q : α → List Note → Prop) : Prop :=
  ∀ w, view w = ns → Sent fit ns (view (t w).2) ∧ ∀ a, (t w).1 = .ok a → Q a (view (t w).2)

theorem Sends.imp {t : ExceptT Fault (StateM S) α} (h : Sends view fit t ns Q)
    (hq : ∀ a ns', Sent fit ns ns' → Q a ns' → Q' a ns') : Sends view fit t ns Q' := by
  intro w hw
  obtain ⟨hsent, hok⟩ := h w hw
  exact ⟨hsent, fun a ha => hq a _ hsent (hok a ha)⟩

theorem Sends.pure {a : α} (h : Q a ns) : Sends view fit (Pure.pure a) ns Q := by
  rintro w rfl
  refine ⟨.nothing _, fun b hb => ?_⟩
  cases hb
  exact h

theorem Sends.throw {f : Fault} : Sends view fit (MonadExcept.throw f) ns Q := by
  rintro w rfl
  exact ⟨.nothing _, fun b hb => by cases hb⟩

theorem Sends.bind {x : ExceptT Fault (StateM S) α} {f : α → ExceptT Fault (StateM S) β}
    {Q : β → List Note → Prop}
    (h : Sends view fit x ns fun a ns' => Sends view fit (f a) ns' Q) :
    Sends view fit (x >>= f) ns Q := by
  intro w hw
  obtain ⟨hsent, hok⟩ := h w hw
  rw [run_bind]
  rcases hx : x w with ⟨r, w'⟩
  rw [hx] at hsent hok
  cases r with
  | ok a =>
    obtain ⟨hsent', hok'⟩ := hok a rfl w' rfl
    exact ⟨hsent.trans hsent', hok'⟩
  | error e =>
    -- what was sent before the failure stays sent
    exact ⟨hsent, fun b hb => by cases hb⟩

theorem Sends.mono {fit' : Fitness} {t : ExceptT Fault (StateM S) α} (h : Sends view fit t ns Q)
    (hfit : ∀ ns st, fit ns st → fit' ns st) : Sends view fit' t ns Q := by
  intro w hw
  obtain ⟨hsent, hok⟩ := h w hw
  exact ⟨hsent.mono hfit, hok⟩

/-- What is sent does not depend on how the result is put. -/
theorem Sends.thenPure {x : ExceptT Fault (StateM S) α} {f : α → β} (h : Sends view fit x ns Q) :
    Sends view fit (x >>= fun a => Pure.pure (f a)) ns fun _ _ => True :=
  .bind (h.imp fun _ _ _ _ => .pure trivial)

theorem Sends.map {t : ExceptT Fault (StateM S) α} {f : α → β} {Q : β → List Note → Prop}
    (h : Sends view fit t ns fun a ns' => Q (f a) ns') : Sends view fit (f <$> t) ns Q := by
  rw [← bind_pure_comp]
  exact .bind (h.imp fun a ns' _ hq => .pure hq)

theorem Sends.tryCatch {x : ExceptT Fault (StateM S) α} {h : Fault → ExceptT Fault (StateM S) α}
    (hx : Sends view fit x ns Q)
    (hh : ∀ f ns', Sent fit ns ns' → Sends view fit (h f) ns' Q) :
    Sends view fit (MonadExcept.tryCatch x h) ns Q := by
  intro w hw
  obtain ⟨hsent, hok⟩ := hx w hw
  rw [run_tryCatch]
  rcases hr : x w with ⟨r, w'⟩
  rw [hr] at hsent hok
  cases r with
  | ok a => exact ⟨hsent, hok⟩
  | error f =>
    obtain ⟨hsent', hok'⟩ := hh f _ hsent w' rfl
    exact ⟨hsent.trans hsent', hok'⟩

end Work

/-! ## Links -/

section Links

variable {α : Type} {fit : Fitness} {ns : List Note} {s : Selection} {cs : Columns α}

theorem sends_exchange {st : Statement} (h : fit ns st) :
    Sends Script.notes fit (Script.link.exchange st) ns
      fun reply ns' => ns' = (st, .ok reply) :: ns := by
  rintro w rfl
  rcases hsend : w.answer st with ⟨r, replies⟩
  have hnotes : (Script.link.exchange st w).2.notes = (st, r) :: w.notes := by
    simp only [Link.exchange, Script.link, hsend]
  have hresult : (Script.link.exchange st w).1 = r.mapError Rejection.fault := by
    simp only [Link.exchange, Script.link, hsend]
  rw [hnotes, hresult]
  refine ⟨.one _ h, fun reply hreply => ?_⟩
  cases r with
  | ok reply' => cases hreply; rfl
  | error e => cases hreply

/-- Work that sends nothing. -/
theorem sends_still {r : Except Fault α} :
    Sends Script.notes fit (fun s => (r, s)) ns fun a ns' => ns' = ns ∧ r = .ok a := by
  rintro w rfl
  exact ⟨.nothing _, fun _ ha => ⟨rfl, ha⟩⟩

theorem sends_readable {r : Except Outage α} :
    Sends Script.notes fit (readable r) ns fun a ns' => ns' = ns ∧ r = .ok a := by
  rintro w rfl
  refine ⟨.nothing _, fun a ha => ⟨rfl, ?_⟩⟩
  cases r with
  | ok b => cases ha; rfl
  | error e => cases ha

theorem sends_all (h : fit ns (.select s)) :
    Sends Script.notes fit (Script.link.all s cs) ns
      fun as ns' => IsOpen ns → ∀ a ∈ as, ReadBy ns' s cs a := by
  refine .bind ((sends_exchange h).imp fun reply ns₁ _ h₁ => ?_)
  subst h₁
  refine sends_readable.imp fun as ns' _ ⟨hns, has⟩ hopen a ha => ?_
  subst hns
  obtain ⟨row, hrow, hread⟩ := exists_left_of_forall₂ (Except.mapM_forall₂ has) ha
  exact ⟨row, hopen.returned hrow, hread⟩

theorem sends_first (h : fit ns (.select s)) :
    Sends Script.notes fit (Script.link.first? s cs) ns
      fun found ns' => IsOpen ns → ∀ a, found = some a → ReadBy ns' s cs a := by
  refine .bind ((sends_exchange h).imp fun reply ns₁ _ h₁ => ?_)
  subst h₁
  cases hrows : reply.rows with
  | nil => exact .pure fun _ a ha => by cases ha
  | cons row rest =>
    refine .bind (sends_readable.imp fun b ns' _ ⟨hns, hb⟩ => .pure fun hopen a ha => ?_)
    subst hns
    cases ha
    exact ⟨row, hopen.returned (hrows ▸ List.mem_cons_self), hb⟩

theorem sends_only (h : fit ns (.select s)) :
    Sends Script.notes fit (Script.link.only s cs) ns fun _ _ => True := by
  refine .bind ((sends_first h).imp fun found ns' _ _ => ?_)
  cases found with
  | none => exact .throw
  | some a => exact .pure trivial

theorem sends_write {st : Statement} (h : fit ns st) :
    Sends Script.notes fit (Script.link.write st) ns fun _ _ => True :=
  (sends_exchange h).thenPure

theorem sends_writeAll {sts : List Statement}
    (h : ∀ st ∈ sts, ∀ ns', Sent fit ns ns' → fit ns' st) :
    Sends Script.notes fit (Script.link.writeAll sts) ns fun _ _ => True := by
  induction sts generalizing ns with
  | nil => exact .pure trivial
  | cons st rest ih =>
    have hst := h st List.mem_cons_self ns (.nothing ns)
    refine .bind ((sends_write hst).imp fun _ ns₁ h₁ _ => ih fun st' hst' ns' h' => ?_)
    exact h st' (List.mem_cons_of_mem st hst') ns' (h₁.trans h')

theorem sends_change {st : Statement} {missing : Absent} (h : fit ns st) :
    Sends Script.notes fit (Script.link.change st missing) ns fun _ _ => True := by
  refine .bind ((sends_exchange h).imp fun reply ns' _ _ => ?_)
  split
  · exact .throw
  · exact .pure trivial

theorem sends_products {kind : ProductKind} {ids : List String} {r : Reader α}
    (h : fit ns (.select (.payloads kind ids))) :
    Sends Script.notes fit (Script.link.products kind ids r) ns fun _ _ => True :=
  .bind ((sends_all h).imp fun _ _ _ _ => sends_readable.imp fun _ _ _ _ => trivial)

theorem sends_lookUp {key : ItemKey} (h : ∀ ns kind ids, fit ns (.select (.payloads kind ids))) :
    Sends Script.notes fit (Script.link.lookUp key) ns fun _ _ => True := by
  refine .bind ((sends_products (h _ _ _)).imp fun items ns₁ _ _ => ?_)
  cases items with
  | nil => exact .throw
  | cons item rest =>
    dsimp only
    cases Id.given? key.variant with
    | none => exact .pure trivial
    | some id =>
      refine .bind ((sends_products (h _ _ _)).imp fun variants ns₂ _ _ => ?_)
      cases variants with
      | nil => exact .pure trivial
      | cons variant rest => exact .pure trivial

end Links

/-! ## Tasks -/

section Tasks

variable {α β : Type} {fit : Fitness} {ns : List Note} {Q : α → List Note → Prop}

def transcript (w : World Script) : List Note := w.state.notes

/-- A task that sends fit statements only. -/
abbrev Fits (fit : Fitness) (t : Task Script α) (ns : List Note) : Prop :=
  Sends transcript fit t ns fun _ _ => True

theorem sends_ofState {f : Exchange Script α} (h : Sends Script.notes fit f ns Q) :
    Sends transcript fit (Task.ofState f) ns Q := fun w hw => h w.state hw

theorem sends_call {c : Call} {Q : c.Reply → List Note → Prop}
    (h : Sends Script.notes fit (Script.link.answer c) ns Q) :
    Sends transcript fit (Script.link.store.call c) ns Q := sends_ofState h

theorem sends_ofExcept {r : Except Fault α} :
    Sends transcript fit (Task.ofExcept r) ns fun a ns' => ns' = ns ∧ r = .ok a := by
  rintro w rfl
  exact ⟨.nothing _, fun a ha => ⟨rfl, ha⟩⟩

theorem sends_obey {r : Except Violation α} :
    Sends transcript fit (Task.obey r) ns fun a ns' => ns' = ns ∧ r = .ok a :=
  sends_ofExcept.imp fun _ _ _ ⟨hns, h⟩ => ⟨hns, Except.mapError_ok.mp h⟩

theorem sends_minted {m : Minting α} : Sends transcript fit (Task.ofMinting m) ns
    fun a ns' => ns' = ns ∧ ∃ ids ids', m ids = (.ok a, ids') := by
  rintro w rfl
  exact ⟨.nothing _, fun a ha => ⟨rfl, w.ids, (m w.ids).2, Prod.ext ha rfl⟩⟩

theorem sends_ofMinting {m : Minting α} : Fits fit (Task.ofMinting m) ns :=
  sends_minted.imp fun _ _ _ _ => trivial

theorem Sends.tally {step : Assignee → Task Script Bool} {as : List Assignee}
    (h : ∀ a ∈ as, ∀ ns', Sent fit ns ns' → Fits fit (step a) ns') :
    Fits fit (Sponsorship.tally step as) ns := by
  induction as generalizing ns with
  | nil => exact .pure trivial
  | cons a rest ih =>
    refine .bind ((h a List.mem_cons_self ns (.nothing ns)).imp fun _ ns₁ h₁ _ => ?_)
    have hrest : Fits fit (Sponsorship.tally step rest) ns₁ :=
      ih fun b hb ns' h' => h b (List.mem_cons_of_mem a hb) ns' (h₁.trans h')
    exact hrest.thenPure

theorem Sends.eachOf {step : β → Task Script Unit} {bs : List β}
    (h : ∀ b ∈ bs, ∀ ns', Sent fit ns ns' → Fits fit (step b) ns') :
    Fits fit (Sponsorship.eachOf step bs) ns := by
  induction bs generalizing ns with
  | nil => exact .pure trivial
  | cons b rest ih =>
    refine .bind ((h b List.mem_cons_self ns (.nothing ns)).imp fun _ ns₁ h₁ _ => ?_)
    exact ih fun b' hb' ns' h' => h b' (List.mem_cons_of_mem b hb') ns' (h₁.trans h')

/-! ## Units of work -/

theorem send_notes (st : Statement) (s : Script) :
    (Script.link.send st s).2.notes = (st, (Script.link.send st s).1) :: s.notes := rfl

/-- The statements around a unit are sent whatever the notes are. -/
structure Bracketing (fit : Fitness) : Prop where
  bracket : ∀ ns st, st.isBracket = true → fit ns st
  serializable : ∀ ns, fit ns .serializable

theorem Bracketing.rollBack (h : Bracketing fit) (s : Script) :
    Sent fit s.notes (Script.link.rollBack s).notes :=
  .one _ (h.bracket _ _ rfl)

theorem Bracketing.commit (h : Bracketing fit) (s : Script) :
    Sent fit s.notes (Script.link.commit s).2.notes := by
  have hone : Sent fit s.notes (Script.link.send .commit s).2.notes := .one _ (h.bracket _ _ rfl)
  unfold Link.commit
  rcases hsend : Script.link.send .commit s with ⟨r, s'⟩
  rw [hsend] at hone
  cases r with
  | ok _ => exact hone
  | error e => exact hone.trans (h.rollBack s')

/-- A transaction that was opened is the unit of work that is open. -/
theorem Bracketing.openTransaction (h : Bracketing fit) (s : Script) :
    Sent fit s.notes (Script.link.openTransaction s).2.notes ∧
      ∀ unit, (Script.link.openTransaction s).1 = .ok unit →
        unit = (Script.link.openTransaction s).2 ∧ JustOpened unit.notes := by
  have hone : Sent fit s.notes (Script.link.send .begin s).2.notes := .one _ (h.bracket _ _ rfl)
  have hnotes := send_notes .begin s
  unfold Link.openTransaction
  rcases hbegin : Script.link.send .begin s with ⟨r, s₁⟩
  rw [hbegin] at hone hnotes
  cases r with
  | error e => exact ⟨hone, fun unit hunit => by cases hunit⟩
  | ok opened =>
    have htwo : Sent fit s₁.notes (Script.link.send .serializable s₁).2.notes :=
      .one _ (h.serializable _)
    have hnotes' := send_notes .serializable s₁
    dsimp only
    rcases hserial : Script.link.send .serializable s₁ with ⟨r', s₂⟩
    rw [hserial] at htwo hnotes'
    cases r' with
    | error e =>
      exact ⟨(hone.trans htwo).trans (h.rollBack s₂), fun unit hunit => by cases hunit⟩
    | ok reply =>
      refine ⟨hone.trans htwo, fun unit hunit => ?_⟩
      cases hunit
      exact ⟨rfl, reply, opened, s.notes, hnotes'.trans (by rw [hnotes])⟩

/-- A unit of work sends fit statements if the task within it does once the unit is open. -/
theorem Bracketing.transact (hb : Bracketing fit) {body : Task Script α} {w : World Script}
    (h : ∀ unit, (Script.link.openTransaction w.state).1 = .ok unit → JustOpened unit.notes →
      Sent (Inside fit) unit.notes (body ⟨w.ids, unit⟩).2.state.notes) :
    Sent fit w.state.notes (Script.link.store.transact body w).2.state.notes := by
  obtain ⟨hopening, hunit⟩ := hb.openTransaction w.state
  unfold Store.transact
  have hbegin : Script.link.store.begin w.state = Script.link.openTransaction w.state := rfl
  rw [hbegin]
  rcases hopened : Script.link.openTransaction w.state with ⟨r, state⟩
  rw [hopened] at h hopening hunit
  cases r with
  | error f => exact hopening
  | ok unit =>
    obtain ⟨rfl, hopen⟩ := hunit unit rfl
    have hsent := h unit rfl hopen
    have hbody := hopening.trans (hsent.mono fun _ _ hfit => hfit.fit)
    dsimp only
    rcases hrun : body ⟨w.ids, unit⟩ with ⟨r, inner⟩
    rw [hrun] at hbody
    cases r with
    | error f => exact hbody.trans (hb.rollBack inner.state)
    | ok a => exact hbody.trans (hb.commit inner.state)

theorem Sends.transact {body : Task Script α} (hb : Bracketing fit)
    (h : ∀ ns', JustOpened ns' → Fits (Inside fit) body ns') :
    Fits fit (Script.link.store.transact body) ns := by
  rintro w rfl
  exact ⟨hb.transact fun unit _ hopen => (h _ hopen ⟨w.ids, unit⟩ rfl).1, fun _ _ => trivial⟩

end Tasks

end Sponsorship.Sql
