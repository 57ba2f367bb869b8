import Mathlib.Data.String.Basic
import Sponsorship.Http.Respond
import Sponsorship.Proofs.Composed
import Sponsorship.Proofs.LockOrder

/-!
# Sponsorship.Proofs.Redaction

What a client learns of the texts in which a database rejects statements.

* `Reworded s s'`: two scripts are the same but for the texts of rejections, and nothing was rejected
  so far.
* `Ended`: two runs end alike, or both were stopped by rejections with one code.
* `Mirrors`: work ends so on reworded scripts. One rule for each way work is put together and for each
  way a link is asked.
* `mirrors_run`, `mirrors_ask`: commands and queries do.
* `rejection_texts`: a client sees the text of a duplicate key and no other.
-/

namespace Sponsorship.Sql

open Time Http

/-! ## Scripts that differ in texts -/

/-- Two rejections that differ in their texts at most. -/
abbrev SameCode (r r' : Rejection) : Prop := r.code = r'.code

/-- Two answers laid down that are the same but for the text of a rejection. -/
structure Scripted.Reworded (a a' : Scripted) : Prop where
  rejection : Option.Rel SameCode a.rejection a'.rejection
  rows : a.rows = a'.rows
  affected : a.affected = a'.affected

def rejection? : Except Rejection Reply → Option Rejection
  | .error r => some r
  | .ok _ => none

/-- The rejections that were noted, newest first. -/
def Script.rejections (s : Script) : List Rejection := s.notes.filterMap fun n => rejection? n.2

/-- Two scripts that are the same but for the texts of rejections, and noted none so far. -/
structure Reworded (s s' : Script) : Prop where
  replies : List.Forall₂ Scripted.Reworded s.replies s'.replies
  atBegin : Option.Rel SameCode s.atBegin s'.atBegin
  atIsolation : Option.Rel SameCode s.atIsolation s'.atIsolation
  atCommit : Option.Rel SameCode s.atCommit s'.atCommit
  unrejected : s.rejections = []
  unrejected' : s'.rejections = []

/-- Two answers that are the same but for the text of a rejection. -/
inductive SameAnswer : Except Rejection Reply → Except Rejection Reply → Prop
  | reply (reply : Reply) : SameAnswer (.ok reply) (.ok reply)
  | rejection {r r' : Rejection} (h : r.code = r'.code) : SameAnswer (.error r) (.error r')

theorem sameAnswer_outcome {o o' : Option Rejection} {reply : Reply}
    (h : Option.Rel SameCode o o') :
    SameAnswer (Script.outcome o reply) (Script.outcome o' reply) := by
  cases h with
  | some h => exact .rejection h
  | none => exact .reply reply

namespace Reworded

variable {s s' : Script}

theorem answer (h : Reworded s s') (st : Statement) :
    SameAnswer (s.answer st).1 (s'.answer st).1 ∧
      List.Forall₂ Scripted.Reworded (s.answer st).2 (s'.answer st).2 := by
  have hnext : SameAnswer (s.answer .probe).1 (s'.answer .probe).1 ∧
      List.Forall₂ Scripted.Reworded (s.answer .probe).2 (s'.answer .probe).2 := by
    have hreplies := h.replies
    simp only [Script.answer]
    cases hs : s.replies with
    | nil =>
      rw [hs] at hreplies
      rw [List.forall₂_nil_left_iff.mp hreplies]
      exact ⟨.reply _, .nil⟩
    | cons a rest =>
      rw [hs] at hreplies
      obtain ⟨a', rest', ha, hrest, hs'⟩ := List.forall₂_cons_left_iff.mp hreplies
      have hreply : a.reply = a'.reply := by unfold Scripted.reply; rw [ha.rows, ha.affected]
      rw [hs']
      dsimp only
      rw [hreply]
      exact ⟨sameAnswer_outcome ha.rejection, hrest⟩
  cases st with
  | begin => exact ⟨sameAnswer_outcome h.atBegin, h.replies⟩
  | serializable => exact ⟨sameAnswer_outcome h.atIsolation, h.replies⟩
  | commit => exact ⟨sameAnswer_outcome h.atCommit, h.replies⟩
  | rollback => exact ⟨.reply {}, h.replies⟩
  | _ => exact hnext

end Reworded

/-- What two links give back: the same reply on reworded scripts, or two rejections with one code,
which are the first. -/
inductive Answered : Except Rejection Reply × Script → Except Rejection Reply × Script → Prop
  | reply (reply : Reply) {s s' : Script} (h : Reworded s s') : Answered (.ok reply, s) (.ok reply, s')
  | rejection {r r' : Rejection} {s s' : Script} (h : r.code = r'.code) (hs : s.rejections = [r])
      (hs' : s'.rejections = [r']) : Answered (.error r, s) (.error r', s')

theorem Reworded.send {s s' : Script} (h : Reworded s s') (st : Statement) :
    Answered (Script.link.send st s) (Script.link.send st s') := by
  obtain ⟨hanswer, hreplies⟩ := h.answer st
  unfold Script.link
  dsimp only
  rcases hr : s.answer st with ⟨r, replies⟩
  rcases hr' : s'.answer st with ⟨r', replies'⟩
  rw [hr, hr'] at hanswer hreplies
  have hnoted : ∀ (s : Script) (r : Except Rejection Reply) replies, s.rejections = [] →
      Script.rejections { s with replies, notes := (st, r) :: s.notes } = (rejection? r).toList := by
    intro s r replies hs
    unfold Script.rejections at hs ⊢
    rw [List.filterMap_cons, hs]
    cases r <;> rfl
  cases hanswer with
  | reply reply =>
    exact .reply reply { h with
      replies := hreplies
      unrejected := hnoted s _ replies h.unrejected
      unrejected' := hnoted s' _ replies' h.unrejected' }
  | rejection hcode =>
    exact .rejection hcode (hnoted s _ replies h.unrejected) (hnoted s' _ replies' h.unrejected')

/-! ## Work on reworded scripts -/

section Work

variable {S α β : Type} {same : S → S → Prop} {view : S → Script}

/-- Two runs end with the same result and nothing rejected, or both were stopped by rejections with
one code. -/
inductive Ended (same : S → S → Prop) (view : S → Script) :
    Except Fault α × S → Except Fault α × S → Prop
  | alike (r : Except Fault α) {s s' : S} (h : same s s') : Ended same view (r, s) (r, s')
  | stopped {r r' : Rejection} {s s' : S} (h : r.code = r'.code) (hs : (view s).rejections = [r])
      (hs' : (view s').rejections = [r']) :
      Ended same view (.error r.fault, s) (.error r'.fault, s')

/-- Work that ends alike wherever it is begun, or is stopped alike. -/
def Mirrors (same : S → S → Prop) (view : S → Script) (t : ExceptT Fault (StateM S) α) : Prop :=
  ∀ s s', same s s' → Ended same view (t s) (t s')

namespace Mirrors

theorem still {r : Except Fault α} :
    Mirrors same view (fun s => (r, s) : ExceptT Fault (StateM S) α) := fun _ _ h => .alike r h

theorem pure {a : α} : Mirrors same view (Pure.pure a) := still

theorem throw {f : Fault} :
    Mirrors same view (MonadExcept.throw f : ExceptT Fault (StateM S) α) := still

theorem bind {x : ExceptT Fault (StateM S) α} {f : α → ExceptT Fault (StateM S) β}
    (hx : Mirrors same view x) (hf : ∀ a, Mirrors same view (f a)) : Mirrors same view (x >>= f) := by
  intro s s' h
  have hended := hx s s' h
  rw [run_bind, run_bind]
  rcases hr : x s with ⟨r, u⟩
  rcases hr' : x s' with ⟨r', u'⟩
  rw [hr, hr'] at hended
  cases hended with
  | alike _ h =>
    cases r with
    | ok a => exact hf a u u' h
    | error f => exact .alike _ h
  | stopped h hs hs' => exact .stopped h hs hs'

theorem map {f : α → β} {x : ExceptT Fault (StateM S) α} (hx : Mirrors same view x) :
    Mirrors same view (f <$> x) := by
  rw [← bind_pure_comp]
  exact hx.bind fun _ => pure

/-- A handler that passes rejections on. -/
theorem tryCatch {x : ExceptT Fault (StateM S) α} {handle : Fault → ExceptT Fault (StateM S) α}
    (hx : Mirrors same view x) (hh : ∀ f, Mirrors same view (handle f))
    (hpass : ∀ r : Rejection, handle r.fault = MonadExcept.throw r.fault) :
    Mirrors same view (MonadExcept.tryCatch x handle) := by
  intro s s' h
  have hended := hx s s' h
  rw [run_tryCatch, run_tryCatch]
  rcases hr : x s with ⟨r, u⟩
  rcases hr' : x s' with ⟨r', u'⟩
  rw [hr, hr'] at hended
  cases hended with
  | alike _ h =>
    cases r with
    | ok a => exact .alike _ h
    | error f => exact hh f u u' h
  | @stopped ρ ρ' _ _ h hs hs' =>
    dsimp only
    rw [hpass, hpass]
    exact .stopped h hs hs'

theorem readable {r : Except Outage α} : Mirrors Reworded id (Sql.readable r) := still

theorem exchange {st : Statement} : Mirrors Reworded id (Script.link.exchange st) := by
  intro s s' h
  have hanswered := h.send st
  unfold Link.exchange
  rcases hr : Script.link.send st s with ⟨r, u⟩
  rcases hr' : Script.link.send st s' with ⟨r', u'⟩
  rw [hr, hr'] at hanswered
  cases hanswered with
  | reply reply h => exact .alike _ h
  | rejection h hs hs' => exact .stopped h hs hs'

theorem all {s : Selection} {cs : Columns α} : Mirrors Reworded id (Script.link.all s cs) :=
  exchange.bind fun _ => readable

theorem first {s : Selection} {cs : Columns α} : Mirrors Reworded id (Script.link.first? s cs) := by
  refine exchange.bind fun reply => ?_
  cases reply.rows with
  | nil => exact pure
  | cons row rest => exact readable.bind fun _ => pure

theorem only {s : Selection} {cs : Columns α} : Mirrors Reworded id (Script.link.only s cs) := by
  refine first.bind fun found => ?_
  cases found with
  | none => exact throw
  | some a => exact pure

theorem write {st : Statement} : Mirrors Reworded id (Script.link.write st) :=
  exchange.bind fun _ => pure

theorem change {st : Statement} {missing : Absent} :
    Mirrors Reworded id (Script.link.change st missing) := by
  refine exchange.bind fun reply => ?_
  split
  · exact throw
  · exact pure

theorem writeAll {sts : List Statement} : Mirrors Reworded id (Script.link.writeAll sts) := by
  induction sts with
  | nil => exact pure
  | cons st rest ih => exact write.bind fun _ => ih

/-! ### Reading and writing -/

theorem assemble {rows : List CampaignRow} : Mirrors Reworded id (Script.link.assemble rows) :=
  all.bind fun _ => readable.bind fun _ => readable

theorem campaign {id' : CampaignId} {lock : Bool} :
    Mirrors Reworded id (Script.link.campaign id' lock) := by
  refine first.bind fun found => ?_
  cases found with
  | none => exact throw
  | some row =>
    refine assemble.bind fun cs => ?_
    cases cs with
    | nil => exact throw
    | cons c rest => exact pure

theorem page {criteria : SearchCriteria} {condition : ListCondition} :
    Mirrors Reworded id (Script.link.page criteria condition) :=
  only.bind fun _ => bind still fun _ => all.bind fun _ => assemble.bind fun _ => pure

theorem assignees {s : Selection} : Mirrors Reworded id (Script.link.assignees s) :=
  all.bind fun _ => readable

/-- Every call. -/
theorem answer (c : Call) : Mirrors Reworded id (Script.link.answer c) := by
  cases c with
  | getCampaign => exact campaign
  | campaignsAmong => exact all.bind fun _ => assemble
  | listCampaigns | searchCampaigns => exact page
  | campaignsEnding | listAnswers => exact all
  | createCampaign => exact write.bind fun _ => writeAll
  | updateCampaign => exact change.bind fun _ => writeAll
  | getAssignee =>
    refine first.bind fun found => ?_
    cases found with
    | none => exact throw
    | some row => exact readable
  | listAssignees | assigneesAmong | assigneesUnderExamination | participations => exact assignees
  | countStages => exact all.bind fun _ => readable
  | createAssignee | createExamination | deleteAnswers => exact write
  | updateAssignee | updateExamination => exact change
  | deleteCampaign | deleteAssignee | saveQuestionnaire | deleteQuestionnaire | saveAnswers =>
    exact writeAll
  | latestExamination =>
    refine first.bind fun found => ?_
    cases found with
    | none => exact throw
    | some row => exact only.bind fun _ => readable
  | latestExaminations => exact all.bind fun _ => readable.bind fun _ => pure
  | findQuestionnaire =>
    refine first.bind fun found => ?_
    cases found with
    | none => exact pure
    | some description => exact all.bind fun _ => readable.bind fun _ => pure

/-! ### Products -/

theorem products {kind : ProductKind} {ids : List String} {r : Reader α} :
    Mirrors Reworded id (Script.link.products kind ids r) := all.bind fun _ => readable

theorem lookUp {key : ItemKey} : Mirrors Reworded id (Script.link.lookUp key) := by
  refine products.bind fun items => ?_
  cases items with
  | nil => exact throw
  | cons item rest =>
    dsimp only
    cases Id.given? key.variant with
    | none => exact pure
    | some variant =>
      refine products.bind fun variants => ?_
      cases variants with
      | nil => exact pure
      | cons found rest => exact pure

theorem lookUpAll {keys : List ItemKey} : Mirrors Reworded id (Script.link.lookUpAll keys) :=
  products.bind fun _ => products.bind fun _ => pure

end Mirrors

end Work

/-! ## Units of work -/

/-- Worlds with the same identifiers left and reworded scripts. -/
structure SameWorld (w w' : World Script) : Prop where
  ids : w.ids = w'.ids
  scripts : Reworded w.state w'.state

/-- Tasks that end alike, or are stopped alike. -/
abbrev MirrorsTask {α : Type} (t : Task Script α) : Prop := Mirrors SameWorld World.state t

section Tasks

variable {α β : Type}

theorem mirrors_ofState {f : Exchange Script α} (h : Mirrors Reworded id f) :
    MirrorsTask (Task.ofState f) := by
  rintro ⟨ids, s⟩ ⟨_, s'⟩ ⟨rfl, hs⟩
  have hended := h s s' hs
  unfold Task.ofState
  dsimp only
  rcases hr : f s with ⟨r, u⟩
  rcases hr' : f s' with ⟨r', u'⟩
  rw [hr, hr'] at hended
  cases hended with
  | alike _ h => exact .alike _ ⟨rfl, h⟩
  | stopped h hs hs' => exact .stopped h hs hs'

theorem mirrors_ofExcept (r : Except Fault α) : MirrorsTask (Task.ofExcept r) := .still

theorem mirrors_obey (r : Except Violation α) : MirrorsTask (Task.obey r) := mirrors_ofExcept _

theorem mirrors_ofMinting (m : Minting α) : MirrorsTask (Task.ofMinting m) := by
  rintro ⟨ids, s⟩ ⟨_, s'⟩ ⟨rfl, hs⟩
  exact .alike _ ⟨rfl, hs⟩

theorem mirrors_call (c : Call) : MirrorsTask (Script.link.store.call c) :=
  mirrors_ofState (.answer c)

/-- A rejection is never taken for something that is not there. -/
theorem Rejection.fault_ne_notFound (r : Rejection) (what : Absent) : r.fault ≠ .notFound what := by
  unfold fault
  intro h
  split at h
  · cases h
  · split at h <;> cases h

theorem mirrors_alike {σ υ : Type} {s : Store σ υ} {rewords : Bool} {t : Task Script α}
    {t' : Task υ α} (h : Alike Script.link.store s rewords t t') : MirrorsTask t := by
  induction h with
  | call c => exact mirrors_call c
  | check r h => exact mirrors_ofExcept r
  | mint m h => exact mirrors_ofMinting m
  | required id a i h =>
    unfold Store.checkSubmission
    cases Store.neededSubmission i.stage with
    | none => exact .pure
    | some kind =>
      refine .tryCatch ((mirrors_call _).bind fun _ => .pure) (fun f => ?_) fun r => ?_
      · cases f <;> exact .throw
      · cases hr : r.fault with
        | notFound what => exact absurd hr (r.fault_ne_notFound what)
        | _ => rfl
  | bind hx hf ihx ihf => exact ihx.bind ihf

/-- What a command does within a unit. -/
theorem mirrors_composed {t : Task Script α} (h : Composed Script.link.store true t) :
    MirrorsTask t := mirrors_alike h

theorem Reworded.rollBack {s s' : Script} (h : Reworded s s') :
    Reworded (Script.link.rollBack s) (Script.link.rollBack s') :=
  { h with unrejected := h.unrejected, unrejected' := h.unrejected' }

/-- A unit opens alike, or is stopped alike before it is open. -/
theorem Reworded.opens {s s' : Script} (h : Reworded s s') :
    (∃ u u', Script.link.openTransaction s = (.ok u, u) ∧
      Script.link.openTransaction s' = (.ok u', u') ∧ Reworded u u') ∨
    ∃ r r' : Rejection, ∃ u u', r.code = r'.code ∧
      Script.link.openTransaction s = (.error r.fault, u) ∧
      Script.link.openTransaction s' = (.error r'.fault, u') ∧
      u.rejections = [r] ∧ u'.rejections = [r'] := by
  unfold Link.openTransaction
  have hbegin := h.send .begin
  rcases hr : Script.link.send .begin s with ⟨r, u⟩
  rcases hr' : Script.link.send .begin s' with ⟨r', u'⟩
  rw [hr, hr'] at hbegin
  cases hbegin with
  | rejection hcode hs hs' => exact .inr ⟨_, _, _, _, hcode, rfl, rfl, hs, hs'⟩
  | reply reply hu =>
    have hserial := hu.send .serializable
    dsimp only
    rcases hr₂ : Script.link.send .serializable u with ⟨r₂, v⟩
    rcases hr₂' : Script.link.send .serializable u' with ⟨r₂', v'⟩
    rw [hr₂, hr₂'] at hserial
    cases hserial with
    | rejection hcode hs hs' => exact .inr ⟨_, _, _, _, hcode, rfl, rfl, hs, hs'⟩
    | reply reply hv => exact .inl ⟨_, _, rfl, rfl, hv⟩

theorem Reworded.commits {s s' : Script} (h : Reworded s s') :
    Ended Reworded id (Script.link.commit s) (Script.link.commit s') := by
  unfold Link.commit
  have hcommit := h.send .commit
  rcases hr : Script.link.send .commit s with ⟨r, u⟩
  rcases hr' : Script.link.send .commit s' with ⟨r', u'⟩
  rw [hr, hr'] at hcommit
  cases hcommit with
  | rejection hcode hs hs' => exact .stopped hcode hs hs'
  | reply reply hu => exact .alike _ hu

/-- A unit of work ends as its work does; what rolls it back adds no rejection. -/
theorem mirrors_transact {body : Task Script α} (h : MirrorsTask body) :
    MirrorsTask (Script.link.store.transact body) := by
  rintro ⟨ids, s⟩ ⟨_, s'⟩ ⟨rfl, hs⟩
  unfold Store.transact Link.store
  dsimp only
  rcases hs.opens with ⟨u, u', hu, hu', hopen⟩ | ⟨r, r', u, u', hcode, hu, hu', hr, hr'⟩
  · rw [hu, hu']
    dsimp only
    have hended := h ⟨ids, u⟩ ⟨ids, u'⟩ ⟨rfl, hopen⟩
    rcases hb : body ⟨ids, u⟩ with ⟨r, inner⟩
    rcases hb' : body ⟨ids, u'⟩ with ⟨r', inner'⟩
    rw [hb, hb'] at hended
    cases hended with
    | stopped hcode hr hr' => exact .stopped hcode hr hr'
    | alike _ hinner =>
      cases r with
      | error f => exact .alike _ ⟨hinner.ids, hinner.scripts.rollBack⟩
      | ok a =>
        have hcommit := hinner.scripts.commits
        dsimp only
        rcases hc : Script.link.commit inner.state with ⟨r, v⟩
        rcases hc' : Script.link.commit inner'.state with ⟨r', v'⟩
        rw [hc, hc'] at hcommit
        cases hcommit with
        | alike _ hv => exact .alike _ ⟨hinner.ids, hv⟩
        | stopped hcode hr hr' => exact .stopped hcode hr hr'
  · rw [hu, hu']
    exact .stopped hcode hr hr'

end Tasks

/-! ## Commands and queries -/

section Services

variable (cap : Nat) (now : Instant)

theorem mirrors_save (r : SaveRequest) : MirrorsTask ((Script.service cap now).save r) := by
  unfold Service.save
  refine (mirrors_obey _).bind fun _ => (mirrors_ofState .lookUp).bind fun found => ?_
  cases r.id with
  | none => exact mirrors_transact (mirrors_composed (.createCampaign now r found.1 found.2))
  | some id =>
    exact mirrors_transact ((mirrors_composed (.updateCampaign now id r found.1 found.2)).bind
      fun _ => .pure)

theorem mirrors_run (c : Command) : MirrorsTask ((Script.service cap now).run c) := by
  cases c with
  | save r => exact (mirrors_save cap now r).map
  | delete id => exact (mirrors_transact (mirrors_call _)).bind fun _ => .pure
  | complete id => exact (mirrors_transact (mirrors_composed (.complete id))).map
  | invite id => exact (mirrors_transact (mirrors_composed (.invite id))).map
  | answerInvitation id b accepted answers =>
    exact (mirrors_transact (mirrors_composed (.answerInvitation id b accepted answers))).map
  | decline id b reason => exact (mirrors_transact (mirrors_composed (.decline id b reason))).map
  | applyLottery id results =>
    exact (mirrors_transact (mirrors_composed (.applyLottery id results))).map
  | finishShipment id => exact (mirrors_transact (mirrors_composed (.finishShipment id))).map
  | completePayment id bs =>
    simp only [Service.run]
    cases firstRepeat? [] bs with
    | some b => exact mirrors_obey _
    | none => exact (mirrors_transact (mirrors_composed (.completePayment id bs))).map
  | submit id b kind entry =>
    exact (mirrors_transact (mirrors_composed (.submit now id b kind entry))).map
  | applyVerdicts id kind verdicts =>
    exact (mirrors_transact (mirrors_composed (.applyVerdicts id kind verdicts))).map

theorem mirrors_read (c : Call) : MirrorsTask ((Script.service cap now).read c) :=
  mirrors_transact (mirrors_call c)

theorem mirrors_refresh (cs : List Campaign) :
    MirrorsTask ((Script.service cap now).refresh cs) := by
  unfold Service.refresh
  split
  · exact .pure
  · exact (mirrors_ofState .lookUpAll).bind fun _ => mirrors_obey _

theorem mirrors_readPage (condition : ListCondition) {c : Task Script Page} (h : MirrorsTask c) :
    MirrorsTask ((Script.service cap now).readPage condition c) :=
  (mirrors_obey _).bind fun _ => (mirrors_transact h).bind fun _ =>
    (mirrors_refresh cap now _).bind fun _ => .pure

theorem mirrors_readCampaign (id : CampaignId) :
    MirrorsTask ((Script.service cap now).readCampaign id) := by
  refine (mirrors_read cap now _).bind fun c => (mirrors_refresh cap now [c]).bind fun cs => ?_
  cases cs with
  | nil => exact .pure
  | cons refreshed rest => exact .pure

theorem mirrors_ask (q : Query) : MirrorsTask ((Script.service cap now).ask q) := by
  cases q with
  | campaign id => exact (mirrors_readCampaign cap now id).map
  | campaigns condition => exact (mirrors_readPage cap now condition (mirrors_call _)).map
  | search criteria condition => exact (mirrors_readPage cap now condition (mirrors_call _)).map
  | ending first last => exact (mirrors_obey _).bind fun _ => (mirrors_read cap now _).map
  | questionnaire id =>
    refine (mirrors_read cap now _).bind fun found => ?_
    cases found with
    | none => exact .throw
    | some q => exact .pure
  | answers id bloggers =>
    refine (mirrors_transact ?_).map
    exact (mirrors_call _).bind fun _ => (mirrors_call _).bind fun _ => .pure
  | participations blogger =>
    refine Mirrors.map ((mirrors_transact ?_).bind fun found =>
      (mirrors_refresh cap now found.2).bind fun _ => .pure)
    exact (mirrors_call _).bind fun _ => (mirrors_call _).bind fun _ => .pure
  | stageCounts id => exact ((mirrors_read cap now _).bind fun _ => .pure).map
  | assignee | assignees | underExamination | examinations | examination =>
    exact (mirrors_read cap now _).map

end Services

/-! ## Responses -/

namespace Rejection

variable {r r' : Rejection}

theorem faultStatus_eq (h : r.code = r'.code) : faultStatus r.fault = faultStatus r'.fault := by
  unfold fault
  rw [h]
  split
  · rfl
  · split <;> rfl

/-- The text of a duplicate key is part of what a client is told. -/
theorem ofFault_duplicateKey (correlation text : String) :
    (Response.ofFault correlation (.conflict (.duplicateKey text))).body =
      some (.object [("error", .string "conflict"), ("message", .string ("conflict: " ++ text))]) :=
  rfl

/-- Of two rejections with one code a client is told apart duplicate keys in other texts. -/
theorem ofFault_body_iff (h : r.code = r'.code) (correlation : String) :
    (Response.ofFault correlation r.fault).body = (Response.ofFault correlation r'.fault).body ↔
      (r.code = uniqueViolation → r.text = r'.text) := by
  unfold fault
  rw [h]
  by_cases hserial : r'.code = serializationFailure
  · rw [if_pos hserial, if_pos hserial, hserial]
    exact iff_of_true rfl fun hne => absurd hne (by decide)
  · rw [if_neg hserial, if_neg hserial]
    by_cases hunique : r'.code = uniqueViolation
    · rw [if_pos hunique, if_pos hunique]
      rw [ofFault_duplicateKey, ofFault_duplicateKey]
      simp only [Option.some.injEq, Json.object.injEq, List.cons.injEq, Prod.mk.injEq,
        Json.string.injEq, true_and, and_true, String.append_right_inj]
      exact ⟨fun htext _ => htext, fun htext => htext hunique⟩
    · rw [if_neg hunique, if_neg hunique]
      exact iff_of_true rfl fun hdup => absurd hdup hunique

end Rejection

/-- If a duplicate key stopped both runs, the database worded it the same. -/
def SameDuplicate (s s' : Script) : Prop :=
  ∀ text text', s.rejections = [⟨uniqueViolation, text⟩] →
    s'.rejections = [⟨uniqueViolation, text'⟩] → text = text'

/-- Nothing was rejected so far. -/
theorem SameWorld.sameDuplicate {w w' : World Script} (h : SameWorld w w') :
    SameDuplicate w.state w'.state := by
  intro text text' hs
  rw [h.scripts.unrejected] at hs
  cases hs

theorem responseOf_ended {α : Type} {r r' : Except Fault α} {w w' : World Script}
    (h : Ended SameWorld World.state (r, w) (r', w')) (correlation : String) (f : α → Json) :
    (responseOf correlation (r.map f)).status = (responseOf correlation (r'.map f)).status ∧
      ((responseOf correlation (r.map f)).body = (responseOf correlation (r'.map f)).body ↔
        SameDuplicate w.state w'.state) := by
  cases h with
  | alike _ h =>
    exact ⟨rfl, iff_of_true rfl h.sameDuplicate⟩
  | @stopped ρ ρ' _ _ hcode hs hs' =>
    refine ⟨Rejection.faultStatus_eq hcode, (Rejection.ofFault_body_iff hcode correlation).trans ?_⟩
    unfold SameDuplicate
    rw [hs, hs']
    constructor
    · intro htext text text' hρ hρ'
      cases hρ
      cases hρ'
      exact htext rfl
    · intro hsame hdup
      refine hsame ρ.text ρ'.text ?_ ?_
      · rw [← hdup]
      · rw [← hdup, hcode]

/-- Looks whether the database can be reached. -/
def Script.ready : StateM (World Script) Bool := fun w =>
  ((Script.link.isReachable w.state).1, { w with state := (Script.link.isReachable w.state).2 })

/-- The answer to a request, by the service on a scripted connection. -/
def Script.serve (cap : Nat) (now : Instant) (correlation : String) (r : Request) :
    StateM (World Script) Response :=
  respond (Script.service cap now) Script.ready correlation r

/-- What two runs of a request tell a client: the same status, and the same body unless a command or a
query was stopped by a duplicate key that the database words differently. -/
structure TellsApart (r : Request) (p p' : Response) (s s' : Script) : Prop where
  status : p.status = p'.status
  body : p.body = p'.body ↔
    r.method = "HEAD" ∨ r.order = .ok (.ok .readiness) ∨ SameDuplicate s s'

/-- The answers to an order, before the body is left out of an answer to a request for the head. -/
theorem carryOut_mirrors (cap : Nat) (now : Instant) (correlation : String) {o : Order}
    {w w' : World Script} (h : SameWorld w w') :
    (carryOut (Script.service cap now) Script.ready correlation o w).1.status =
        (carryOut (Script.service cap now) Script.ready correlation o w').1.status ∧
      ((carryOut (Script.service cap now) Script.ready correlation o w).1.body =
          (carryOut (Script.service cap now) Script.ready correlation o w').1.body ↔
        o = .readiness ∨
          SameDuplicate (carryOut (Script.service cap now) Script.ready correlation o w).2.state
            (carryOut (Script.service cap now) Script.ready correlation o w').2.state) := by
  cases o with
  | liveness => exact ⟨rfl, iff_of_true rfl (.inr h.sameDuplicate)⟩
  | readiness =>
    have hready : (Script.ready w).1 = (Script.ready w').1 := by
      unfold Script.ready Link.isReachable
      have hprobe := h.scripts.send .probe
      rcases hr : Script.link.send .probe w.state with ⟨r, u⟩
      rcases hr' : Script.link.send .probe w'.state with ⟨r', u'⟩
      rw [hr, hr'] at hprobe
      cases hprobe <;> rfl
    have hcarry : ∀ w, (carryOut (Script.service cap now) Script.ready correlation .readiness w).1 =
        probe (Script.ready w).1 := fun _ => rfl
    rw [hcarry, hcarry, hready]
    exact ⟨rfl, iff_of_true rfl (.inl rfl)⟩
  | command c =>
    obtain ⟨hstatus, hbody⟩ := responseOf_ended (mirrors_run cap now c w w' h) correlation outcomeBody
    exact ⟨hstatus, hbody.trans ⟨.inr, fun hor => hor.resolve_left fun ho => by cases ho⟩⟩
  | query q =>
    obtain ⟨hstatus, hbody⟩ := responseOf_ended (mirrors_ask cap now q w w' h) correlation answerBody
    exact ⟨hstatus, hbody.trans ⟨.inr, fun hor => hor.resolve_left fun ho => by cases ho⟩⟩

theorem TellsApart.answered {r : Request} {p p' : Response} {s s' : Script}
    (hstatus : p.status = p'.status)
    (hbody : p.body = p'.body ↔ r.order = .ok (.ok .readiness) ∨ SameDuplicate s s') :
    TellsApart r (if r.method = "HEAD" then { p with body := none } else p)
      (if r.method = "HEAD" then { p' with body := none } else p') s s' := by
  by_cases hhead : r.method = "HEAD"
  · rw [if_pos hhead, if_pos hhead]
    exact ⟨hstatus, iff_of_true rfl (.inl hhead)⟩
  · rw [if_neg hhead, if_neg hhead]
    exact ⟨hstatus, hbody.trans ⟨.inr, fun hor => hor.resolve_left hhead⟩⟩

/-- Whatever is asked, on scripts that differ in the texts of rejections a client is told the same,
except for the text of a duplicate key. -/
theorem rejection_texts (cap : Nat) (now : Instant) (correlation : String) (r : Request)
    {w w' : World Script} (h : SameWorld w w') :
    TellsApart r (Script.serve cap now correlation r w).1 (Script.serve cap now correlation r w').1
      (Script.serve cap now correlation r w).2.state
      (Script.serve cap now correlation r w').2.state := by
  unfold Script.serve respond
  cases hr : r.order with
  | error refusal => exact .answered rfl (iff_of_true rfl (.inr h.sameDuplicate))
  | ok wanted =>
    cases wanted with
    | error rule => exact .answered rfl (iff_of_true rfl (.inr h.sameDuplicate))
    | ok order =>
      obtain ⟨hstatus, hbody⟩ := carryOut_mirrors cap now correlation (o := order) h
      refine .answered hstatus (hbody.trans (or_congr_left ?_))
      rw [hr]
      exact ⟨fun ho => ho ▸ rfl, fun ho => Except.ok.inj (Except.ok.inj ho)⟩

/-! ## A submission that is rejected -/

/-- A path is split at one character after the other. -/
theorem splitOnAux_slash (s : String) (b i : String.Pos.Raw) (parts : List String) :
    s.splitOnAux "/" b i 0 parts = s.splitAux (fun c => c == '/') b i parts := by
  rw [String.splitOnAux, String.splitAux]
  split
  · rfl
  · rename_i hend
    have hlater := Nat.sub_lt_sub_left (Nat.gt_of_not_le (mt decide_eq_true hend))
      (String.Pos.Raw.lt_next s i)
    have hget : String.Pos.Raw.get "/" 0 = '/' := by decide
    have hnext : String.Pos.Raw.next "/" 0 = ⟨1⟩ := by decide
    rw [hget, hnext]
    dsimp only
    split
    · rename_i hslash
      have hback : (String.Pos.Raw.next s i).unoffsetBy ⟨1⟩ = i := by
        have hsize : (String.Pos.Raw.next s i).byteIdx = i.byteIdx + 1 := by
          change i.byteIdx + (String.Pos.Raw.get s i).utf8Size = i.byteIdx + 1
          rw [beq_iff_eq.mp hslash]
          rfl
        simp [String.Pos.Raw.unoffsetBy, hsize]
      rw [if_pos (by decide), hback]
      exact splitOnAux_slash s _ _ _
    · exact splitOnAux_slash s b _ parts
termination_by s.rawEndPos.1 - i.1

theorem segments_eq (t : Target) :
    t.segments = ((t.path.toList.splitOnP fun c => c == '/').map String.ofList).drop 1 := by
  have hsplit := splitOnAux_slash t.path 0 0 []
  rw [Target.segments, ← String.splitToList_of_valid]
  exact congrArg (List.drop 1) hsplit

def submissionRequest : Request :=
  { method := "POST"
    target := ⟨"/api/v1/offer-items/campaign/assignees/blogger/submission", ""⟩
    contentType := some "application/json"
    body := "\x7b\"entry_type\":\"entry\",\"entry_id\":\"entry\"\x7d" }

/-- The rows that a submission reads, and a rejection of the row that it writes. -/
def rejectingWorld (code text : String) : World Script :=
  { ids := .counting
    state := { replies := [{ rows := some [writingRow] }, { rows := some [lotteryRow] }, {},
      { rejection := some ⟨code, text⟩ }] } }

theorem sameWorld_rejecting (code text text' : String) :
    SameWorld (rejectingWorld code text) (rejectingWorld code text') := by
  have hrefl : ∀ a : Scripted, a.rejection = none → Scripted.Reworded a a := fun a ha =>
    ⟨ha ▸ .none, rfl, rfl⟩
  exact ⟨rfl, .cons (hrefl _ rfl) (.cons (hrefl _ rfl) (.cons (hrefl _ rfl)
    (.cons ⟨.some rfl, rfl, rfl⟩ .nil))), .none, .none, .none, rfl, rfl⟩

/-- The answer to the submission. -/
def rejectedSubmission (code text : String) : Response × World Script :=
  Script.serve standardAssigneeCap ⟨0, 0⟩ "correlation" submissionRequest (rejectingWorld code text)

/-- What is asked for, where it is a submission. -/
def submission? : Wanted → Option (CampaignId × BloggerId × EntryKind × Option EntryId)
  | .ok (.ok (.command (.submit id blogger kind entry))) => some (id, blogger, kind, entry)
  | _ => none

theorem submissionRequest_order : submissionRequest.order =
    Wanted.command (.submit ⟨"campaign"⟩ ⟨"blogger"⟩ .entry (some ⟨"entry"⟩)) := by
  have hasked : submission? submissionRequest.order =
      some (⟨"campaign"⟩, ⟨"blogger"⟩, .entry, some ⟨"entry"⟩) := by
    unfold Request.order
    rw [segments_eq]
    decide +kernel
  unfold submission? at hasked
  split at hasked
  · rename_i horder
    rw [horder]
    cases hasked
    rfl
  · cases hasked

theorem rejectedSubmission_eq (code text : String) : rejectedSubmission code text =
    carryOut (Script.service standardAssigneeCap ⟨0, 0⟩) Script.ready "correlation"
      (.command (.submit ⟨"campaign"⟩ ⟨"blogger"⟩ .entry (some ⟨"entry"⟩)))
      (rejectingWorld code text) := by
  unfold rejectedSubmission Script.serve respond
  rw [submissionRequest_order]
  rfl

theorem rejectedSubmission_rejections :
    (rejectedSubmission "XX000" "disk full").2.state.rejections = [⟨"XX000", "disk full"⟩] ∧
      (rejectedSubmission uniqueViolation "first").2.state.rejections =
        [⟨uniqueViolation, "first"⟩] ∧
      (rejectedSubmission uniqueViolation "second").2.state.rejections =
        [⟨uniqueViolation, "second"⟩] := by
  simp only [rejectedSubmission_eq]
  decide +kernel

/-- Of a full disk a client hears nothing, of a duplicate key it hears the words. -/
theorem rejection_texts_of_submission :
    (rejectedSubmission "XX000" "disk full").1.body =
        (rejectedSubmission "XX000" "out of memory").1.body ∧
      (rejectedSubmission uniqueViolation "first").1.body ≠
        (rejectedSubmission uniqueViolation "second").1.body := by
  obtain ⟨hfull, hfirst, hsecond⟩ := rejectedSubmission_rejections
  have htold := fun code text text' => (rejection_texts standardAssigneeCap ⟨0, 0⟩ "correlation"
    submissionRequest (sameWorld_rejecting code text text')).body
  constructor
  · refine (htold "XX000" _ _).mpr (.inr (.inr fun text text' hs => ?_))
    have hcode : ["XX000"] = [uniqueViolation] :=
      congrArg (List.map Rejection.code) (hfull.symm.trans hs)
    exact absurd hcode (by decide)
  · intro hbody
    rcases (htold uniqueViolation _ _).mp hbody with hhead | horder | hsame
    · exact absurd hhead (by decide)
    · rw [submissionRequest_order] at horder
      cases horder
    · exact absurd (hsame _ _ hfirst hsecond) (by decide)

/-- The message of a response to a fault. -/
def told? (p : Response) : Option String :=
  match p.body with
  | some (.object [_, (_, .string message)]) => some message
  | _ => none

/-- Two scripts that differ in the text of a duplicate key alone are told apart. -/
theorem duplicate_key_told : ¬ ∀ (cap : Nat) (now : Instant) (correlation : String) (r : Request)
    (w w' : World Script), SameWorld w w' →
      (Script.serve cap now correlation r w).1.status =
          (Script.serve cap now correlation r w').1.status ∧
        (Script.serve cap now correlation r w).1.body =
          (Script.serve cap now correlation r w').1.body := by
  intro h
  have hbody : (rejectedSubmission uniqueViolation "first").1.body =
      (rejectedSubmission uniqueViolation "second").1.body :=
    (h standardAssigneeCap ⟨0, 0⟩ "correlation" submissionRequest _ _
      (sameWorld_rejecting uniqueViolation "first" "second")).2
  have htold : told? (rejectedSubmission uniqueViolation "first").1 =
      told? (rejectedSubmission uniqueViolation "second").1 := by
    unfold told?
    rw [hbody]
  rw [rejectedSubmission_eq, rejectedSubmission_eq] at htold
  exact absurd htold (by decide +kernel)

end Sponsorship.Sql
