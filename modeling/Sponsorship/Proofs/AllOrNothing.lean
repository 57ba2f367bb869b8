import Sponsorship.Proofs.Composed
import Sponsorship.Proofs.History

/-!
# Sponsorship.Proofs.AllOrNothing

Commands write all or nothing, whatever fails.

A store is recorded (`Store.recorded`): beside what it does it keeps the list of what it was asked,
each entry with its fault. The store itself is any store, so it may fail at any entry with any fault,
and a run on the recorded store is the run on the store itself but for the list (`noted`).

* `Episode`: what the work of a command records within its unit. It ends at the first call that
  fails, and the fault of that call is the fault of the work (`Surfaces`).
* `Course`: what a whole command records.
* `Alike.recounts`, `records_run`: the runs on the two stores agree, with such a record.
* `command_all_or_nothing`: a command opens at most one unit, and commits it last and only if
  nothing failed. In memory a command that fails leaves everything as it was.
-/

namespace Sponsorship

variable {σ υ α β : Type}

/-- What a store is asked, with the fault if it fails. -/
inductive Event
  | opened (fault : Option Fault)
  | asked (call : Call) (fault : Option Fault)
  | committed (fault : Option Fault)

namespace Event

def fault? : Event → Option Fault
  | opened fault | asked _ fault | committed fault => fault

def isOpening : Event → Bool
  | opened _ => true
  | _ => false

def isCommit : Event → Bool
  | committed _ => true
  | _ => false

end Event

/-- The fault of a result. -/
def faultOf : Except Fault α → Option Fault
  | .ok _ => none
  | .error f => some f

/-- The store with a record of what it is asked. -/
def Store.recorded (s : Store σ υ) : Store (σ × List Event) (υ × List Event) where
  begin m :=
    match s.begin m.1 with
    | (.ok unit, state) => (.ok (unit, m.2 ++ [.opened none]), (state, m.2 ++ [.opened none]))
    | (.error f, state) => (.error f, (state, m.2 ++ [.opened (some f)]))
  perform c u :=
    let (reply, unit) := s.perform c u.1
    (reply, (unit, u.2 ++ [.asked c (faultOf reply)]))
  commit u m :=
    let (result, state) := s.commit u.1 m.1
    (result, (state, u.2 ++ [.committed (faultOf result)]))
  abandon u m := (s.abandon u.1 m.1, u.2)

/-- The catalog beside a recorded store. -/
def Catalog.recorded (c : Catalog σ) : Catalog (σ × List Event) where
  get key m :=
    let (reply, state) := c.get key m.1
    (reply, (state, m.2))
  getAll keys m :=
    let (reply, state) := c.getAll keys m.1
    (reply, (state, m.2))

def Service.recorded (s : Service σ υ) : Service (σ × List Event) (υ × List Event) :=
  { store := s.store.recorded, catalog := s.catalog.recorded, assigneeCap := s.assigneeCap,
    now := s.now }

/-- The end of a run, with a record beside the state. -/
def noted (ended : Except Fault α × World σ) (log : List Event) :
    Except Fault α × World (σ × List Event) :=
  (ended.1, ⟨ended.2.ids, (ended.2.state, log)⟩)

/-! ## Within a unit -/

/-- How the fault `g` of a call comes out of a command: as it is, or in the words for a submission
that a requested stage calls for. -/
inductive Surfaces (rewords : Bool) : Call → Fault → Fault → Prop
  | same (c : Call) (g : Fault) : Surfaces rewords c g g
  | reworded (h : rewords = true) (id : CampaignId) (a : AssigneeId) (kind : EntryKind)
      (what : Absent) (blogger : BloggerId) (stage : Stage) :
      Surfaces rewords (.latestExamination id a kind false) (.notFound what)
        (.notFound (.requiredSubmission kind blogger stage))

/-- Calls that all succeed. -/
def granted (calls : List Call) : List Event := calls.map fun c => .asked c none

/-- What work within a unit records: it succeeds, or a check fails, or its last call does. -/
inductive Episode (rewords : Bool) : Except Fault α → List Event → Prop
  | done (a : α) (calls : List Call) : Episode rewords (.ok a) (granted calls)
  | refused {f : Fault} (h : f.OfCheck) (calls : List Call) :
      Episode rewords (.error f) (granted calls)
  | failed {c : Call} {g f : Fault} (h : Surfaces rewords c g f) (calls : List Call) :
      Episode rewords (.error f) (granted calls ++ [.asked c (some g)])

theorem Episode.after {rewords : Bool} {r : Except Fault α} {log : List Event}
    (h : Episode rewords r log) (calls : List Call) :
    Episode rewords r (granted calls ++ log) := by
  have happ : ∀ calls', granted calls ++ granted calls' = granted (calls ++ calls') :=
    fun calls' => by simp [granted]
  cases h with
  | done a calls' => rw [happ]; exact .done a _
  | refused hf calls' => rw [happ]; exact .refused hf _
  | failed hs calls' => rw [← List.append_assoc, happ]; exact .failed hs _

theorem Episode.of_check {rewords : Bool} {r : Except Fault α}
    (h : ∀ f, r = .error f → f.OfCheck) : Episode rewords r [] := by
  cases r with
  | ok a => exact .done a []
  | error f => exact .refused (h f rfl) []

theorem recorded_begin (s : Store σ υ) (state : σ) (log : List Event) :
    s.recorded.begin (state, log) = match s.begin state with
      | (.ok unit, state) => (.ok (unit, log ++ [.opened none]), (state, log ++ [.opened none]))
      | (.error f, state) => (.error f, (state, log ++ [.opened (some f)])) := rfl

theorem recorded_commit (s : Store σ υ) (unit : υ) (state : σ) (log log' : List Event) :
    s.recorded.commit (unit, log) (state, log') = ((s.commit unit state).1,
      ((s.commit unit state).2, log ++ [.committed (faultOf (s.commit unit state).1)])) := rfl

theorem recorded_call (s : Store σ υ) (c : Call) (ids : Ids) (unit : υ) (log : List Event) :
    s.recorded.call c ⟨ids, (unit, log)⟩ = noted (s.call c ⟨ids, unit⟩)
      (log ++ [.asked c (faultOf (s.call c ⟨ids, unit⟩).1)]) := rfl

theorem episode_call {rewords : Bool} (c : Call) (r : Except Fault α) :
    Episode rewords r [.asked c (faultOf r)] := by
  cases r with
  | ok a => exact .done a [c]
  | error f => exact .failed (.same c f) []

/-- Work on the recorded store ends as it does on the store itself, with an episode in the record. -/
def Recounts (rewords : Bool) (t' : Task (υ × List Event) α) (t : Task υ α) : Prop :=
  ∀ (ids : Ids) (unit : υ) (log : List Event), ∃ log',
    t' ⟨ids, (unit, log)⟩ = noted (t ⟨ids, unit⟩) (log ++ log') ∧ Episode rewords (t ⟨ids, unit⟩).1 log'

theorem recounts_check {rewords : Bool} {m : Minting α}
    (h : ∀ ids f, (m ids).1 = .error f → f.OfCheck) :
    Recounts rewords (Task.ofMinting m : Task (υ × List Event) α) (Task.ofMinting m) := by
  intro ids unit log
  refine ⟨[], ?_, .of_check (h ids)⟩
  rw [List.append_nil]; rfl

/-- A look for a required submission is one call, whose absence comes out in other words. -/
theorem recounts_required (s : Store σ υ) (id : CampaignId) (a : Assignee) (i : AssigneeInput) :
    Recounts true (s.recorded.checkSubmission id a i) (s.checkSubmission id a i) := by
  intro ids unit log
  unfold Store.checkSubmission
  cases Store.neededSubmission i.stage with
  | none => exact ⟨[], by rw [List.append_nil]; rfl, .done () []⟩
  | some kind =>
    let c : Call := .latestExamination id a.id kind false
    simp only [run_tryCatch, run_bind, recorded_call]
    rcases s.call c ⟨ids, unit⟩ with ⟨r, w⟩
    rcases r with (what | clash | rule | outage) | e
    · exact ⟨_, rfl, .failed (.reworded rfl id a.id kind what i.blogger i.stage) []⟩
    · exact ⟨_, rfl, .failed (.same c _) []⟩
    · exact ⟨_, rfl, .failed (.same c _) []⟩
    · exact ⟨_, rfl, .failed (.same c _) []⟩
    · exact ⟨_, rfl, .done () [c]⟩

theorem Recounts.bind {rewords : Bool} {x' : Task (υ × List Event) α} {x : Task υ α}
    {f' : α → Task (υ × List Event) β} {f : α → Task υ β} (hx : Recounts rewords x' x)
    (hf : ∀ a, Recounts rewords (f' a) (f a)) : Recounts rewords (x' >>= f') (x >>= f) := by
  intro ids unit log
  obtain ⟨log₁, hlog, hep⟩ := hx ids unit log
  rw [run_bind, run_bind, hlog]
  rcases hr : x ⟨ids, unit⟩ with ⟨r, w⟩
  rw [hr] at hep
  cases hep with
  | done a calls =>
    obtain ⟨log₂, hlog', hep'⟩ := hf a w.ids w.state (log ++ granted calls)
    exact ⟨granted calls ++ log₂, by rw [← List.append_assoc]; exact hlog', hep'.after calls⟩
  | refused hf calls => exact ⟨_, rfl, .refused hf calls⟩
  | failed hs calls => exact ⟨_, rfl, .failed hs calls⟩

theorem Alike.recounts {s : Store σ υ} {rewords : Bool} {t' : Task (υ × List Event) α}
    {t : Task υ α} (h : Alike s.recorded s rewords t' t) : Recounts rewords t' t := by
  induction h with
  | call c => exact fun ids unit log => ⟨_, recorded_call s c ids unit log, episode_call c _⟩
  | check r h => exact recounts_check (m := fun ids => (r, ids)) fun _ => h
  | mint m h => exact recounts_check h.fault
  | required id a i h => subst h; exact recounts_required s id a i
  | bind hx hf ihx ihf => exact ihx.bind ihf

/-! ## A whole command -/

/-- What a command records. It opens a unit unless a check or the catalog is in the way, and commits
it if its work is done. -/
inductive Course (rewords : Bool) : Except Fault α → List Event → Prop
  | unasked (f : Fault) : Course rewords (.error f) []
  | unopened (f : Fault) : Course rewords (.error f) [.opened (some f)]
  | abandoned {f : Fault} {log : List Event} (h : Episode rewords (.error f : Except Fault α) log) :
      Course rewords (.error f) (.opened none :: log)
  | uncommitted (f : Fault) (calls : List Call) :
      Course rewords (.error f) (.opened none :: granted calls ++ [.committed (some f)])
  | committed (a : α) (calls : List Call) :
      Course rewords (.ok a) (.opened none :: granted calls ++ [.committed none])

theorem Course.map {rewords : Bool} {r : Except Fault α} {log : List Event}
    (h : Course rewords r log) (g : α → β) : Course rewords (r.map g) log := by
  cases h with
  | unasked f => exact .unasked f
  | unopened f => exact .unopened f
  | abandoned h =>
    cases h with
    | refused hf calls => exact .abandoned (.refused hf calls)
    | failed hs calls => exact .abandoned (.failed hs calls)
  | uncommitted f calls => exact .uncommitted f calls
  | committed a calls => exact .committed (g a) calls

/-- A task on the recorded store ends as it does on the store itself, with a course in the record. -/
def Records (rewords : Bool) (t' : Task (σ × List Event) α) (t : Task σ α) : Prop :=
  ∀ (ids : Ids) (state : σ), ∃ log,
    t' ⟨ids, (state, [])⟩ = noted (t ⟨ids, state⟩) log ∧ Course rewords (t ⟨ids, state⟩).1 log

section Records

variable {rewords : Bool}

theorem Records.map {t' : Task (σ × List Event) α} {t : Task σ α} (h : Records rewords t' t)
    (g : α → β) : Records rewords (g <$> t' : Task (σ × List Event) β) (g <$> t : Task σ β) := by
  intro ids state
  obtain ⟨log, hlog, hcourse⟩ := h ids state
  rw [run_map, run_map, hlog]
  exact ⟨log, rfl, hcourse.map g⟩

theorem records_throw (f : Fault) :
    Records rewords (throw f : Task (σ × List Event) α) (throw f : Task σ α) :=
  fun _ _ => ⟨[], rfl, .unasked f⟩

theorem records_obey {t' : Task (σ × List Event) β} {t : Task σ β} (r : Except Violation α)
    (h : Records rewords t' t) :
    Records rewords (Task.obey r >>= fun _ => t') (Task.obey r >>= fun _ => t) := by
  intro ids state
  rw [run_bind, run_bind]
  cases r with
  | ok a => exact h ids state
  | error v => exact ⟨[], rfl, .unasked _⟩

theorem records_lookup (c : Catalog σ) (key : ItemKey)
    {k' : Item × Option Variant → Task (σ × List Event) α} {k : Item × Option Variant → Task σ α}
    (h : ∀ found, Records rewords (k' found) (k found)) :
    Records rewords (Task.ofState (c.recorded.get key) >>= k') (Task.ofState (c.get key) >>= k) := by
  intro ids state
  have hget : Task.ofState (c.recorded.get key) ⟨ids, (state, [])⟩ =
      noted (Task.ofState (c.get key) ⟨ids, state⟩) [] := rfl
  rw [run_bind, run_bind, hget]
  rcases Task.ofState (c.get key) ⟨ids, state⟩ with ⟨r, w⟩
  cases r with
  | ok found => exact h found w.ids w.state
  | error f => exact ⟨[], rfl, .unasked f⟩

theorem records_transact {s : Store σ υ} {body' : Task (υ × List Event) α} {body : Task υ α}
    (h : Alike s.recorded s rewords body' body) :
    Records rewords (s.recorded.transact body') (s.transact body) := by
  intro ids state
  unfold Store.transact
  simp only [recorded_begin]
  rcases s.begin state with ⟨r, state₁⟩
  cases r with
  | error f => exact ⟨_, rfl, .unopened f⟩
  | ok unit =>
    obtain ⟨log, hlog, hep⟩ := h.recounts ids unit [.opened none]
    simp only [List.nil_append, hlog]
    rcases hr : body ⟨ids, unit⟩ with ⟨r, w⟩
    rw [hr] at hep
    cases hep with
    | refused hf calls => exact ⟨_, rfl, .abandoned (.refused hf calls)⟩
    | failed hs calls => exact ⟨_, rfl, .abandoned (.failed hs calls)⟩
    | done a calls =>
      rcases hc : s.commit w.state state₁ with ⟨r, state₂⟩
      simp only [noted, recorded_commit, hc]
      cases r with
      | ok _ => exact ⟨_, rfl, .committed a calls⟩
      | error f => exact ⟨_, rfl, .uncommitted f calls⟩

end Records

/-- Whether a command is a request to change a campaign that is there. -/
def Command.isUpdate : Command → Bool
  | .save r => r.id.isSome
  | _ => false

theorem records_save (s : Service σ υ) (r : SaveRequest) :
    Records r.id.isSome (s.recorded.save r) (s.save r) := by
  refine records_obey _ (records_lookup _ _ fun found => records_transact ?_)
  cases r.id with
  | none => exact .createCampaign _ r found.1 found.2
  | some id => exact (Alike.updateCampaign _ id r found.1 found.2).bind fun _ => .pure id

theorem records_run (s : Service σ υ) (c : Command) :
    Records c.isUpdate (s.recorded.run c) (s.run c) := by
  cases c with
  | save r => exact (records_save s r).map _
  | delete id => exact (records_transact (.call _)).map fun _ => Outcome.deleted
  | complete id => exact (records_transact (.complete id)).map _
  | invite id => exact (records_transact (.invite id)).map _
  | answerInvitation id b accepted answers =>
    exact (records_transact (.answerInvitation id b accepted answers)).map _
  | decline id b reason => exact (records_transact (.decline id b reason)).map _
  | applyLottery id results => exact (records_transact (.applyLottery id results)).map _
  | finishShipment id => exact (records_transact (.finishShipment id)).map _
  | completePayment id bs =>
    simp only [Service.run]
    cases firstRepeat? [] bs with
    | some b => exact records_throw _
    | none => exact (records_transact (.completePayment id bs)).map _
  | submit id b kind entry => exact (records_transact (.submit _ id b kind entry)).map _
  | applyVerdicts id kind verdicts =>
    exact (records_transact (.applyVerdicts id kind verdicts)).map _

/-! ## All or nothing -/

/-- The run ends in the fault of a check: no call has failed, and a check reports such faults. -/
def CheckFailed (r : Except Fault α) (log : List Event) : Prop :=
  ∃ f, r = .error f ∧ f.OfCheck ∧ ∀ e ∈ log, e.fault? = none

/-- What the record of a command that ends in `r` is like. -/
structure AllOrNothing (rewords : Bool) (r : Except Fault α) (log : List Event) : Prop where
  opens_once : (log.filter Event.isOpening).length ≤ 1
  commits_once : (log.filter Event.isCommit).length ≤ 1
  commit_last : ∀ e ∈ log.dropLast, e.isCommit = false
  commits_iff : (∃ e ∈ log, e.isCommit = true) ↔
    .opened none ∈ log ∧ (∀ c fault, .asked c fault ∈ log → fault = none) ∧ ¬ CheckFailed r log
  succeeds_iff : (∃ a, r = .ok a) ↔ .committed none ∈ log
  surfaces : ∀ e ∈ log, ∀ g, e.fault? = some g → r = .error g ∨
    ∃ c f, e = .asked c (some g) ∧ Surfaces rewords c g f ∧ r = .error f

/-- The record of a unit: the opening, calls that succeed, and what comes last. -/
theorem mem_record {calls : List Call} {last : List Event} {e : Event} :
    e ∈ Event.opened none :: (granted calls ++ last) ↔
      e = .opened none ∨ (∃ c ∈ calls, e = .asked c none) ∨ e ∈ last := by
  simp only [List.mem_cons, List.mem_append, granted, List.mem_map, eq_comm (a := e)]

theorem filter_record (p : Event → Bool) (h : ∀ c, p (.asked c none) = false) (calls : List Call)
    (last : List Event) : (Event.opened none :: (granted calls ++ last)).filter p =
      (if p (.opened none) then [.opened none] else []) ++ last.filter p := by
  have hg : (granted calls).filter p = [] := by simp [granted, h]
  rw [List.filter_cons, List.filter_append, hg]
  split <;> rfl

theorem mem_dropLast_record {calls : List Call} {last : List Event} (hlast : last.length ≤ 1)
    {e : Event} (h : e ∈ (Event.opened none :: (granted calls ++ last)).dropLast) :
    e ∈ Event.opened none :: (granted calls ++ []) := by
  rw [List.append_nil]
  cases last with
  | nil => rw [List.append_nil] at h; exact List.dropLast_subset _ h
  | cons l rest =>
    obtain rfl : rest = [] := by
      simp only [List.length_cons] at hlast
      exact List.eq_nil_of_length_eq_zero (by omega)
    rw [← List.cons_append, List.dropLast_concat] at h
    exact h

section Record

variable {calls : List Call} {last : List Event}

theorem record_faultless_iff : (∀ e ∈ Event.opened none :: (granted calls ++ last), e.fault? = none) ↔
    ∀ e ∈ last, e.fault? = none := by
  refine ⟨fun h e he => h e (mem_record.mpr (.inr (.inr he))), fun h e he => ?_⟩
  rcases mem_record.mp he with rfl | ⟨c, _, rfl⟩ | he
  · rfl
  · rfl
  · exact h e he

theorem record_commits_iff :
    (∃ e ∈ Event.opened none :: (granted calls ++ last), e.isCommit = true) ↔
      ∃ e ∈ last, e.isCommit = true := by
  constructor
  · rintro ⟨e, he, hc⟩
    rcases mem_record.mp he with rfl | ⟨c, _, rfl⟩ | he
    · cases hc
    · cases hc
    · exact ⟨e, he, hc⟩
  · rintro ⟨e, he, hc⟩
    exact ⟨e, mem_record.mpr (.inr (.inr he)), hc⟩

theorem record_granted_iff :
    (∀ c fault, .asked c fault ∈ Event.opened none :: (granted calls ++ last) → fault = none) ↔
      ∀ c fault, .asked c fault ∈ last → fault = none := by
  refine ⟨fun h c fault he => h c fault (mem_record.mpr (.inr (.inr he))), fun h c fault he => ?_⟩
  rcases mem_record.mp he with he | ⟨c', _, he⟩ | he
  · cases he
  · cases he; rfl
  · exact h c fault he

theorem record_committed_iff :
    .committed none ∈ Event.opened none :: (granted calls ++ last) ↔ .committed none ∈ last := by
  constructor
  · intro he
    rcases mem_record.mp he with he | ⟨c, _, he⟩ | he
    · cases he
    · cases he
    · exact he
  · exact fun he => mem_record.mpr (.inr (.inr he))

end Record

/-- A record with one more entry after the calls keeps to the rules if that entry does. -/
theorem allOrNothing_record {rewords : Bool} {r : Except Fault α} (calls : List Call)
    (last : List Event) (hlast : last.length ≤ 1) (hopen : ∀ e ∈ last, e.isOpening = false)
    (hcommits : (∃ e ∈ last, e.isCommit = true) ↔ (∀ c fault, .asked c fault ∈ last → fault = none) ∧
      ¬ ∃ f, r = .error f ∧ f.OfCheck ∧ ∀ e ∈ last, e.fault? = none)
    (hsucceeds : (∃ a, r = .ok a) ↔ .committed none ∈ last)
    (hsurfaces : ∀ e ∈ last, ∀ g, e.fault? = some g → r = .error g ∨
      ∃ c f, e = .asked c (some g) ∧ Surfaces rewords c g f ∧ r = .error f) :
    AllOrNothing rewords r (.opened none :: (granted calls ++ last)) := by
  constructor
  · rw [filter_record _ fun _ => rfl]
    have : last.filter Event.isOpening = [] := List.filter_eq_nil_iff.mpr fun e he => by
      simp [hopen e he]
    simp [this, Event.isOpening]
  · rw [filter_record _ fun _ => rfl]
    have := List.length_filter_le Event.isCommit last
    simp only [Event.isCommit, Bool.false_eq_true, if_false, List.nil_append]
    omega
  · intro e he
    rcases mem_record.mp (mem_dropLast_record hlast he) with rfl | ⟨c, _, rfl⟩ | he
    · rfl
    · rfl
    · cases he
  · rw [record_commits_iff, record_granted_iff, hcommits]
    simp only [CheckFailed, record_faultless_iff, List.mem_cons_self, true_and]
  · rw [record_committed_iff]; exact hsucceeds
  · intro e he g hg
    rcases mem_record.mp he with rfl | ⟨c, _, rfl⟩ | he
    · cases hg
    · cases hg
    · exact hsurfaces e he g hg

theorem Course.allOrNothing {rewords : Bool} {r : Except Fault α} {log : List Event}
    (h : Course rewords r log) : AllOrNothing rewords r log := by
  cases h with
  | unasked f => constructor <;> simp
  | unopened f =>
    refine ⟨List.length_filter_le _ _, List.length_filter_le _ _, by simp, ?_, by simp, ?_⟩
    · simp [Event.isCommit]
    · simp [Event.fault?]
  | @abandoned f log h =>
    cases h with
    | refused hf calls =>
      rw [← List.append_nil (granted calls)]
      exact allOrNothing_record calls [] (by simp) (by simp) (by simpa using hf) (by simp) (by simp)
    | @failed c g _ hs calls =>
      refine allOrNothing_record calls [.asked c (some g)] (by simp) (by simp [Event.isOpening])
        (by simp [Event.isCommit]) (by simp) ?_
      intro e he g' hg
      obtain rfl := List.mem_singleton.mp he
      cases hg
      exact .inr ⟨c, f, rfl, hs, rfl⟩
  | uncommitted f calls =>
    refine allOrNothing_record calls [.committed (some f)] (by simp) (by simp [Event.isOpening])
      (by simp [Event.isCommit, Event.fault?]) (by simp) ?_
    intro e he g hg
    obtain rfl := List.mem_singleton.mp he
    cases hg
    exact .inl rfl
  | committed a calls =>
    exact allOrNothing_record calls [.committed none] (by simp) (by simp [Event.isOpening])
      (by simp [Event.isCommit]) (by simp) (by simp [Event.fault?])

/-- In memory work that fails leaves the tables and the count of commits as they were, and work that
succeeds adds one to the count. -/
def Atomic (t : Task Memory α) : Prop :=
  ∀ w, match t w with
    | (.ok _, w') => w'.state.commits = w.state.commits + 1
    | (.error _, w') => w'.state = w.state

theorem atomic_transact (body : Task Tables α) : Atomic (Store.memory.transact body) := by
  intro w
  rw [transact_memory]
  rcases body w.unit with ⟨r, u⟩
  cases r <;> rfl

theorem Atomic.map {t : Task Memory α} (h : Atomic t) (g : α → β) :
    Atomic (g <$> t : Task Memory β) := by
  intro w
  have hw := h w
  rw [run_map]
  rcases hr : t w with ⟨r, w'⟩
  rw [hr] at hw
  cases r <;> exact hw

/-- Work before a unit that leaves the state alone does not change that. -/
theorem Atomic.after {t : α → Task Memory β} (h : ∀ a, Atomic (t a)) {x : Task Memory α}
    (hx : ∀ w, (x w).2.state = w.state) : Atomic (x >>= t : Task Memory β) := by
  intro w
  have hw := hx w
  rw [run_bind]
  rcases hr : x w with ⟨r, w₁⟩
  rw [hr] at hw
  cases r with
  | error f => exact hw
  | ok a =>
    have ha := h a w₁
    rw [show w₁.state = w.state from hw] at ha
    exact ha

theorem Occasion.atomic_run (o : Occasion) (c : Command) : Atomic (o.service.run c) := by
  cases c with
  | save r =>
    refine Atomic.map ?_ _
    refine Atomic.after (fun _ => ?_) fun w => rfl
    refine Atomic.after (fun found => ?_) fun w => o.detached _ _
    exact atomic_transact _
  | completePayment id bs =>
    simp only [Service.run]
    split
    · exact fun w => rfl
    · exact (atomic_transact _).map _
  | delete id => exact (atomic_transact _).map _
  | complete id => exact (atomic_transact _).map _
  | invite id => exact (atomic_transact _).map _
  | answerInvitation id b accepted answers => exact (atomic_transact _).map _
  | decline id b reason => exact (atomic_transact _).map _
  | applyLottery id results => exact (atomic_transact _).map _
  | finishShipment id => exact (atomic_transact _).map _
  | submit id b kind entry => exact (atomic_transact _).map _
  | applyVerdicts id kind verdicts => exact (atomic_transact _).map _

/-- A command opens at most one unit of work on any store, and commits it at most once, last, and
exactly if the opening, every call and every check succeeded; it succeeds exactly if that commit
does, and a call that fails shows in its fault. In memory it is atomic. -/
theorem command_all_or_nothing (c : Command) :
    (∀ {σ υ : Type} (s : Service σ υ) (ids : Ids) (state : σ), ∃ log,
      s.recorded.run c ⟨ids, (state, [])⟩ = noted (s.run c ⟨ids, state⟩) log ∧
      AllOrNothing c.isUpdate (s.run c ⟨ids, state⟩).1 log) ∧
    ∀ o : Occasion, Atomic (o.service.run c) := by
  refine ⟨fun s ids state => ?_, fun o => o.atomic_run c⟩
  obtain ⟨log, hlog, hcourse⟩ := records_run s c ids state
  exact ⟨log, hlog, hcourse.allOrNothing⟩

end Sponsorship
