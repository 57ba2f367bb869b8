import Sponsorship.Proofs.Allowed
import Sponsorship.Proofs.Locking

/-!
# Sponsorship.Proofs.LockOrder

The order in which the rows of a unit of work are locked.

* `Selection.locksCampaign_of_locks`: which texts ask for locks on campaigns.
* `CampaignFirst`: a lock on a campaign is not asked for after one on an assignee in the same unit.
* `Quiet t`: the task asks for no lock on campaigns. One lemma for calls, and one for each part of a
  command that is quiet.
* `Ordered t`: begun in a unit that was just opened, the task keeps the order. One lemma for each
  command that locks its campaign.
* `Crosses c w`: a submission that finds its assignee. It locks the assignee before the campaign.
* `lock_order`: exactly the commands that do not cross keep the order, whatever is answered.
* `Reaches`: a run comes to ask for rows while it holds another. A run in order never asks for a
  campaign while it holds an assignee (`Sent.campaignFirst_reaches`); `crossed_locks` are two runs
  that each hold the row that the other asks for.
-/

namespace Sponsorship

namespace Sql

open Time

/-! ## Texts that lock campaigns -/

/-- The text that stands for a parameter ends in a digit. -/
theorem place_last (n : Nat) : ∃ c : Char, (place n).toList.getLast? = some c ∧ c.isDigit := by
  have hdigits : Nat.toDigits 10 n ≠ [] := by simp
  have hplace : (place n).toList = '$' :: Nat.toDigits 10 n := by
    simp [place, toString, Nat.repr]
  refine ⟨(Nat.toDigits 10 n).getLast hdigits, ?_, ?_⟩
  · rw [hplace, List.getLast?_cons, List.getLast?_eq_some_getLast hdigits]
    rfl
  · exact Nat.isDigit_of_mem_toDigits (by decide) (by decide) (List.getLast_mem hdigits)

namespace Selection

/-- A text that locks campaigns begins with the identifiers of campaigns. -/
theorem Locks.front {s : Selection} (h : s.Locks .campaign) (front back : String)
    (htext : s.text = front ++ back) :
    front.toList <+: "SELECT o.id, ".toList ∨ "SELECT o.id, ".toList <+: front.toList := by
  obtain ⟨columns, conditions, h⟩ := h
  have hlead : "SELECT o.id, ".toList <+: s.text.toList := by
    rw [h]
    exact ⟨(columns ++ " FROM " ++ Table.campaign.name ++ conditions ++
      lockClause .campaign).toList, by simp [Table.qualifier]⟩
  have hfront : front.toList <+: s.text.toList := ⟨back.toList, by simp [htext]⟩
  exact List.prefix_or_prefix_of_prefix hfront hlead

/-- A text that locks campaigns ends in the word that locks. -/
theorem Locks.back {s : Selection} (h : s.Locks .campaign) {front : String} (back : String)
    {c : Char} (htext : s.text = front ++ back) (hc : back.toList.getLast? = some c) : c = 'E' := by
  obtain ⟨columns, conditions, h⟩ := h
  have hlast : s.text.toList.getLast? = some 'E' := by
    rw [h, String.toList_append, List.getLast?_append]
    rfl
  rw [htext, String.toList_append, List.getLast?_append, hc] at hlast
  exact Option.some.inj hlast

/-- Of all selections only that of one campaign can lock campaigns. -/
theorem locksCampaign_of_locks {s : Selection} (h : s.Locks .campaign) :
    s.locksCampaign = true := by
  cases s with
  | campaign id lock =>
    cases lock with
    | true => rfl
    | false => cases h.back (" AND o.id = $1" ++ "") String.append_assoc rfl
  | campaigns => cases h.back " ORDER BY o.created_at" rfl rfl
  | campaignCount =>
    exact absurd (h.front "SELECT COUNT(*) FROM offer_item o WHERE o.deleted_at IS NULL" _ rfl)
      (by decide)
  | campaignPage criteria =>
    obtain ⟨c, hc, hdigit⟩ := place_last ((filters criteria).length + 2)
    cases h.back _ rfl hc
    cases hdigit
  | campaignsEnding =>
    cases h.back " AND s.end_date BETWEEN $2 AND $3 ORDER BY s.end_date, o.id" rfl rfl
  | schedules =>
    cases h.back " FROM schedule WHERE offer_item_id = ANY($1) ORDER BY schedule_type" rfl rfl
  | assignee _ _ lock =>
    cases lock with
    | true => cases h.back " FOR UPDATE OF a" rfl rfl
    | false =>
      cases h.back (" AND a.offer_item_id = $1 AND a.ameba_id = $2" ++ "") String.append_assoc rfl
  | assignees _ _ lock =>
    cases lock with
    | true => cases h.back " FOR UPDATE OF a" rfl rfl
    | false => cases h.back (" ORDER BY a.created_at, a.id" ++ "") String.append_assoc rfl
  | assigneesAmong _ _ _ lock =>
    cases lock with
    | true => cases h.back " FOR UPDATE OF a" rfl rfl
    | false =>
      cases h.back (" AND ($3::SMALLINT IS NULL OR a.stage = $3) ORDER BY a.created_at, a.id" ++ "")
        String.append_assoc rfl
  | assigneesStanding =>
    cases h.back " AND a.stage = ANY($1) ORDER BY a.created_at, a.id" rfl rfl
  | participations => cases h.back " AND a.ameba_id = $1 ORDER BY a.created_at, a.id" rfl rfl
  | stageCounts =>
    cases h.back (" WHERE o.deleted_at IS NULL AND a.offer_item_id = $1 GROUP BY a.stage" ++
      " ORDER BY a.stage") rfl rfl
  | latestExamination id author kind lock =>
    obtain ⟨tail, htail⟩ := ExaminationRow.columns_ledBy.text
    have hid : ("SELECT id, " : String) = "SELECT " ++ (Table.examination.qualifier ++ "id, ") :=
      rfl
    have htext : (latestExamination id author kind lock).text =
        "SELECT " ++ ExaminationRow.columns.text ++ submissionText ++
          " ORDER BY created_at DESC, seq DESC LIMIT 1" ++ lockText lock := rfl
    rw [htail] at htext
    have hfront : (latestExamination id author kind lock).text = "SELECT id, " ++ (tail ++
        submissionText ++ " ORDER BY created_at DESC, seq DESC LIMIT 1" ++ lockText lock) := by
      rw [htext, hid]
      simp only [String.append_assoc]
    exact absurd (h.front _ _ hfront) (by decide)
  | examinationCount => exact absurd (h.front "SELECT COUNT(*)" _ rfl) (by decide)
  | latestExaminations => cases h.back " ORDER BY assignee_id, created_at DESC, seq DESC" rfl rfl
  | description =>
    exact absurd (h.front "SELECT description FROM questionnaire WHERE offer_item_id = $1" _ rfl)
      (by decide)
  | questions =>
    cases h.back " FROM questionnaire_question WHERE offer_item_id = $1 ORDER BY priority" rfl rfl
  | answers => cases h.back " ORDER BY assignee_id, question_id" rfl rfl
  | payloads =>
    exact absurd
      (h.front "SELECT payload FROM catalog_item WHERE kind = $1 AND id = ANY($2)" "" rfl) (by decide)

end Selection

/-! ## Work that locks no campaign -/

/-- Asks for no locks on campaigns. -/
def Statement.Calm (st : Statement) : Prop := ∀ s, st = .select s → ¬ s.Locks .campaign

/-- What may be sent when campaigns are locked before assignees: a selection that locks campaigns
comes after none in the same unit that locks assignees. -/
def CampaignFirst (ns : List Note) (st : Statement) : Prop :=
  ∀ s unit, st = .select s → s.Locks .campaign → OpenUnit unit ns →
    ∀ s' r, (.select s', r) ∈ unit → ¬ s'.Locks .assignee

/-- Statements of a unit of work that ask for no locks on campaigns. -/
abbrev CalmInside : Fitness := Inside fun _ st => st.Calm

/-- A task that asks for no locks on campaigns. -/
abbrev Quiet {α : Type} (t : Task Script α) : Prop := Always CalmInside t

theorem Statement.Calm.campaignFirst {st : Statement} (h : st.Calm) (ns : List Note) :
    CampaignFirst ns st := fun s _ hst hs => absurd hs (h s hst)

theorem Quiet.ordered {α : Type} {t : Task Script α} (h : Quiet t) (ns : List Note) :
    Fits (Inside CampaignFirst) t ns := by
  intro w hw
  obtain ⟨hsent, -⟩ := h ns w hw
  exact ⟨hsent.mono fun ns' _ hst => ⟨hst.inside, hst.fit.campaignFirst ns'⟩, fun _ _ => trivial⟩

theorem Selection.calm {s : Selection} (h : s.locksCampaign = false) :
    (Statement.select s).Calm := by
  intro s' hs' hlocks
  cases hs'
  rw [Selection.locksCampaign_of_locks hlocks] at h
  cases h

theorem calm_select {ns : List Note} {s : Selection} (h : s.locksCampaign = false) :
    CalmInside ns (.select s) :=
  ⟨rfl, Selection.calm h⟩

theorem quiet_call {c : Call} (hc : c.sparesCampaign = true) :
    Quiet (Script.link.store.call c) := by
  refine fun ns => (allows_call c ns).mono fun _ st h => ⟨h.inside, ?_⟩
  intro s hs hlocks
  rw [h.locks s hs (Selection.locksCampaign_of_locks hlocks)] at hc
  cases hc

/-! ## Quiet work -/

namespace Quiet

open Always (obey mint)

theorem advance (a : Assignee) (m : Move) : Quiet (Script.link.store.advance a m) :=
  obey.bind fun _ => (quiet_call rfl).bind fun _ => .pure

/-! ### The course of a campaign -/

theorem invite (id : CampaignId) : Quiet (Script.link.store.invite id) :=
  (quiet_call rfl).bind fun _ => (quiet_call rfl).bind fun as =>
    Always.tally (fun a => advance a _) as

theorem recordAnswers (accepted : Bool) (q : Option Questionnaire) (a : AssigneeId)
    (answers : Keyed QuestionId String) :
    Quiet (Script.link.store.recordAnswers accepted q a answers) := by
  unfold Store.recordAnswers
  split
  · exact obey.bind fun _ => quiet_call rfl
  · exact .pure

theorem decline (id : CampaignId) (b : BloggerId) (reason : String) :
    Quiet (Script.link.store.decline id b reason) :=
  (quiet_call rfl).bind fun _ => obey.bind fun _ => (quiet_call rfl).bind fun _ => .pure

theorem applyResult (flags : WorkflowFlags) (results : Keyed BloggerId LotteryResult)
    (a : Assignee) : Quiet (Script.link.store.applyResult flags results a) := by
  unfold Store.applyResult
  split
  · exact .pure
  · exact advance a _

theorem completePayment (id : CampaignId) (bs : List BloggerId) :
    Quiet (Script.link.store.completePayment id bs) :=
  (quiet_call rfl).bind fun _ => (quiet_call rfl).bind fun as =>
    (Always.tally (fun a => advance a _) as).bind fun _ => .pure

theorem applyVerdict (id : CampaignId) (kind : EntryKind) (verdicts : Keyed BloggerId Verdict)
    (a : Assignee) : Quiet (Script.link.store.applyVerdict id kind verdicts a) := by
  unfold Store.applyVerdict
  split
  · exact .pure
  · exact (quiet_call rfl).bind fun _ => obey.bind fun _ => obey.bind fun _ =>
      (quiet_call rfl).bind fun _ => (quiet_call rfl).bind fun _ => .pure

theorem applyVerdicts (id : CampaignId) (kind : EntryKind) (verdicts : Keyed BloggerId Verdict) :
    Quiet (Script.link.store.applyVerdicts id kind verdicts) :=
  (quiet_call rfl).bind fun as => Always.tally (applyVerdict id kind verdicts) as

/-! ### Saving -/

theorem createCampaign (now : Instant) (r : SaveRequest) (item : Item) (variant : Option Variant) :
    Quiet (Script.link.store.createCampaign now r item variant) :=
  mint.bind fun c => (quiet_call rfl).bind fun _ =>
    (Always.poseQuestionnaire (fun _ hc _ => quiet_call hc) c.id _).bind fun _ =>
      (Always.eachOf (Always.enrol (fun _ hc _ => quiet_call hc) now c.id) _).bind fun _ => .pure

end Quiet

/-! ## Units of work in order -/

/-- A task that locks campaigns before assignees, if it begins a unit of work. -/
abbrev Ordered {α : Type} (t : Task Script α) : Prop :=
  ∀ ns, JustOpened ns → Fits (Inside CampaignFirst) t ns

section Order

variable {α β : Type}

/-- A unit that was just opened has selected nothing. -/
theorem JustOpened.unselected {unit ns : List Note} (h : JustOpened ns) (hu : OpenUnit unit ns)
    (s : Selection) (r : Except Rejection Reply) : (.select s, r) ∉ unit := by
  obtain ⟨reply, opened, before, rfl⟩ := h
  obtain ⟨opened', before', hns, hunit⟩ := hu
  match unit with
  | [] => simp
  | [n] =>
    obtain ⟨rfl, -⟩ := List.cons.inj hns
    simp
  | n :: m :: rest =>
    -- the second note would be the one that opened the unit
    obtain ⟨-, hns⟩ := List.cons.inj hns
    obtain ⟨rfl, -⟩ := List.cons.inj hns
    cases hunit _ (List.mem_cons_of_mem n List.mem_cons_self)

theorem Ordered.getCampaign {id : CampaignId} {lock : Bool} :
    Ordered (Script.link.store.call (.getCampaign id lock)) := by
  intro ns hopened
  refine sends_call (sends_campaign ⟨rfl, ?_⟩ fun ns' ids => ⟨rfl, ?_⟩)
  · intro s unit _ _ hu s' r hmem
    exact absurd hmem (hopened.unselected hu s' r)
  · exact (Selection.calm rfl).campaignFirst ns'

/-- Whoever reads the campaign first may do anything quiet after it. -/
theorem Ordered.thenQuiet {x : Task Script α} {f : α → Task Script β} (hx : Ordered x)
    (hf : ∀ a, Quiet (f a)) : Ordered (x >>= f) :=
  fun ns h => .bind ((hx ns h).imp fun a ns' _ _ => (hf a).ordered ns')

theorem Quiet.inOrder {t : Task Script α} (h : Quiet t) : Ordered t := fun ns _ => h.ordered ns

theorem ordered_answerInvitation (id : CampaignId) (b : BloggerId) (accepted : Bool)
    (answers : Keyed QuestionId String) :
    Ordered (Script.link.store.answerInvitation id b accepted answers) :=
  Ordered.getCampaign.thenQuiet fun _ => (quiet_call rfl).bind fun _ =>
    (quiet_call rfl).bind fun _ => Always.obey.bind fun _ =>
      (Quiet.recordAnswers _ _ _ _).bind fun _ => (quiet_call rfl).bind fun _ => .pure

theorem ordered_applyLottery (id : CampaignId) (results : Keyed BloggerId LotteryResult) :
    Ordered (Script.link.store.applyLottery id results) :=
  Ordered.getCampaign.thenQuiet fun _ => (quiet_call rfl).bind fun as =>
    .tally (Quiet.applyResult _ results) as

theorem ordered_finishShipment (id : CampaignId) :
    Ordered (Script.link.store.finishShipment id) :=
  Ordered.getCampaign.thenQuiet fun _ => (quiet_call rfl).bind fun as =>
    .tally (fun a => Quiet.advance a _) as

theorem ordered_complete (id : CampaignId) : Ordered (Script.link.store.complete id) :=
  Ordered.getCampaign.thenQuiet fun _ => (quiet_call rfl).bind fun as =>
    (Always.eachOf (fun _ => quiet_call rfl) as).bind fun _ => Always.obey.bind fun _ =>
      (quiet_call rfl).bind fun _ => .pure

theorem ordered_updateCampaign (now : Instant) (id : CampaignId) (r : SaveRequest) (item : Item)
    (variant : Option Variant) :
    Ordered (Script.link.store.updateCampaign now id r item variant) := by
  intro ns hopened
  -- the check in front sends nothing, so the unit is still one that was just opened
  refine .bind (sends_obey.imp fun _ ns' _ ⟨hns, _⟩ => ?_)
  subst hns
  have hrest : Ordered (do
      let campaign : Campaign ← Script.link.store.call (.getCampaign id true)
      let campaign ← Task.ofExcept (r.revision item variant campaign)
      Script.link.store.call (.updateCampaign campaign)
      Script.link.store.reconcileQuestionnaire id r.questionnaire
      Script.link.store.reconcileAssignees now id r.assignees) :=
    Ordered.getCampaign.thenQuiet fun _ => Always.ofExcept.bind fun _ =>
      (quiet_call rfl).bind fun _ =>
        (Always.reconcileQuestionnaire (fun _ hc _ => quiet_call hc) id _).bind fun _ =>
          Always.reconcileAssignees (fun _ hc _ => quiet_call hc) now id _
  exact hrest _ hopened

end Order

/-! ## Submissions -/

section Submission

variable {α β : Type}

theorem Sent.suffix {fit : Fitness} {ns ns' : List Note} (h : Sent fit ns ns') : ns <:+ ns' := by
  induction h with
  | nothing => exact List.suffix_rfl
  | next _ n _ ih => exact ih.trans (List.suffix_cons n _)

/-- Each statement that was sent was fit for the notes before it. -/
theorem Sent.fit_of_suffix {fit : Fitness} {ns ns' before : List Note} {n : Note}
    (h : Sent fit ns ns') (hafter : ns <:+ before) (hn : (n :: before) <:+ ns') :
    fit before n.1 := by
  induction h with
  | nothing =>
    have hlength := (hn.trans hafter).length_le
    simp only [List.length_cons] at hlength
    omega
  | next _ m hm ih =>
    rcases List.suffix_cons_iff.mp hn with heq | hn
    · cases heq
      exact hm
    · exact ih hn

/-- Work begins with a statement; whatever it does then, it adds to the notes. -/
theorem exchange_suffix {st : Statement} {k : Reply → Exchange Script α}
    (hk : ∀ reply ns, Sends Script.notes CalmInside (k reply) ns fun _ _ => True) (s : Script) :
    ∃ r, (st, r) :: s.notes <:+ ((Script.link.exchange st >>= k) s).2.notes := by
  have hnotes : (Script.link.exchange st s).2.notes = (st, (Script.link.send st s).1) :: s.notes :=
    send_notes st s
  refine ⟨(Script.link.send st s).1, ?_⟩
  rw [← hnotes, run_bind]
  rcases Script.link.exchange st s with ⟨r, s'⟩
  cases r with
  | error f => exact List.suffix_rfl
  | ok reply => exact (hk reply _ s' rfl).1.suffix

theorem Quiet.bind_suffix {x : Task Script α} {f : α → Task Script β} (hf : ∀ a, Quiet (f a))
    (w : World Script) : (x w).2.state.notes <:+ ((x >>= f) w).2.state.notes := by
  rw [run_bind]
  rcases x w with ⟨r, w'⟩
  cases r with
  | error e => exact List.suffix_rfl
  | ok a => exact (hf a _ w' rfl).1.suffix

/-- The statement that asks for an assignee is all that is sent for it. -/
theorem assignee_notes {id : CampaignId} {b : BloggerId} {lock : Bool} {a : Assignee} {s : Script}
    (h : (Script.link.assignee id b lock s).1 = .ok a) :
    ∃ reply, (Script.link.assignee id b lock s).2.notes =
      (.select (.assignee id b lock), .ok reply) :: s.notes := by
  have hsends : Sends Script.notes (fun _ _ => True) (Script.link.assignee id b lock) s.notes
      fun _ ns' => ∃ reply, ns' = (.select (.assignee id b lock), .ok reply) :: s.notes := by
    refine .bind (.bind ((sends_exchange trivial).imp fun reply ns₁ _ h₁ => ?_))
    subst h₁
    cases reply.rows with
    | nil => exact .pure .throw
    | cons row rest =>
      refine .bind (sends_readable.imp fun r ns₂ _ ⟨h₂, _⟩ => .pure ?_)
      subst h₂
      exact sends_readable.imp fun _ ns' _ ⟨h', _⟩ => h' ▸ ⟨reply, rfl⟩
  exact (hsends s rfl).2 a h

/-- The statement that asks for a campaign is sent first for it. -/
theorem campaign_suffix (id : CampaignId) (lock : Bool) (s : Script) :
    ∃ r, (.select (.campaign id lock), r) :: s.notes <:+
      (Script.link.campaign id lock s).2.notes := by
  unfold Link.campaign Link.first?
  rw [bind_assoc]
  refine exchange_suffix (fun reply ns => ?_) s
  cases reply.rows with
  | nil => exact .bind (.pure .throw)
  | cons row rest =>
    refine .bind (.bind (sends_readable.imp fun r _ _ _ => .pure ?_))
    refine .bind ((sends_assemble fun _ => calm_select rfl).imp fun cs _ _ _ => ?_)
    cases cs with
    | nil => exact .throw
    | cons c rest => exact .pure trivial

section Submit

variable (now : Instant) (id : CampaignId) (b : BloggerId) (kind : EntryKind)
  (entry : Option EntryId)

/-- A submission that does not get its assignee asks for nothing else. -/
theorem sent_submit {w : World Script}
    (h : ∀ a, (Script.link.assignee id b true w.state).1 ≠ .ok a) :
    Sent (Inside CampaignFirst) w.state.notes
      (Script.link.store.submit now id b kind entry w).2.state.notes := by
  have hcall : Quiet (Script.link.store.call (.getAssignee id b true)) := quiet_call rfl
  obtain ⟨hsent, -⟩ := hcall.ordered _ w rfl
  have hfails : ∀ a, (Script.link.store.call (.getAssignee id b true) w).1 ≠ .ok a := h
  unfold Store.submit
  rw [run_bind]
  rcases hrun : Script.link.store.call (.getAssignee id b true) w with ⟨r, w'⟩
  rw [hrun] at hsent hfails
  cases r with
  | ok a => exact absurd rfl (hfails a)
  | error f => exact hsent

/-- A submission that gets its assignee asks for the campaign next. -/
theorem submit_suffix {w : World Script} {a : Assignee}
    (h : (Script.link.assignee id b true w.state).1 = .ok a) :
    ∃ r reply, (.select (.campaign id true), r) :: (.select (.assignee id b true), .ok reply) ::
      w.state.notes <:+ (Script.link.store.submit now id b kind entry w).2.state.notes := by
  obtain ⟨reply, hreply⟩ := assignee_notes h
  have hcall : Script.link.store.call (.getAssignee id b true) w =
      (.ok a, ⟨w.ids, (Script.link.assignee id b true w.state).2⟩) := by
    rw [← h]
    rfl
  obtain ⟨r, hr⟩ := campaign_suffix id true (Script.link.assignee id b true w.state).2
  rw [hreply] at hr
  refine ⟨r, reply, hr.trans ?_⟩
  unfold Store.submit
  rw [run_bind, hcall]
  exact Quiet.bind_suffix (x := Script.link.store.call (.getCampaign id true)) (fun c =>
    Always.mint.bind fun _ => Always.obey.bind fun _ => Always.obey.bind fun _ =>
      (quiet_call rfl).bind fun _ => (quiet_call rfl).bind fun _ => .pure)
    ⟨w.ids, (Script.link.assignee id b true w.state).2⟩

end Submit

end Submission

/-! ## Commands -/

theorem bracketing_campaignFirst : Bracketing CampaignFirst where
  bracket ns st h s _ hst := by
    subst hst
    cases h
  serializable ns s _ hst := by cases hst

theorem Ordered.unit {α : Type} {body : Task Script α} (h : Ordered body) {ns : List Note} :
    Fits CampaignFirst (Script.link.store.transact body) ns :=
  .transact bracketing_campaignFirst h

theorem ordered_save (cap : Nat) (now : Instant) (r : SaveRequest) {ns : List Note} :
    Fits CampaignFirst ((Script.service cap now).save r) ns := by
  refine .bind (sends_obey.imp fun _ ns₁ _ _ => .bind ?_)
  have hlookUp : ∀ key : ItemKey, Sends Script.notes CampaignFirst
      (Script.link.lookUp key) ns₁ fun _ _ => True :=
    fun _ => sends_lookUp fun ns' _ _ => (Selection.calm rfl).campaignFirst ns'
  refine (sends_ofState (hlookUp _)).imp fun found ns₂ _ _ => Ordered.unit ?_
  cases r.id with
  | none => exact (Quiet.createCampaign now r found.1 found.2).inOrder
  | some id =>
    intro ns₃ hopened
    exact (ordered_updateCampaign now id r found.1 found.2 ns₃ hopened).thenPure

/-- Commands that are not submissions. -/
theorem ordered_command (cap : Nat) (now : Instant) (c : Command)
    (hc : ∀ id b kind entry, c ≠ .submit id b kind entry) (ns : List Note) :
    Fits CampaignFirst ((Script.service cap now).run c) ns := by
  have hunit : ∀ {α β : Type} {body : Task Script α} {f : α → β}, Ordered body →
      Fits CampaignFirst (f <$> Script.link.store.transact body) ns :=
    fun h => .map (h.unit.imp fun _ _ _ _ => trivial)
  cases c with
  | submit id b kind entry => exact absurd rfl (hc id b kind entry)
  | save r => exact .map (ordered_save cap now r)
  | delete id => exact (Ordered.unit (quiet_call rfl).inOrder).thenPure
  | complete id => exact hunit (ordered_complete id)
  | invite id => exact hunit (Quiet.invite id).inOrder
  | answerInvitation id b accepted answers =>
    exact hunit (ordered_answerInvitation id b accepted answers)
  | decline id b reason => exact hunit (Quiet.decline id b reason).inOrder
  | applyLottery id results => exact hunit (ordered_applyLottery id results)
  | finishShipment id => exact hunit (ordered_finishShipment id)
  | completePayment id bs =>
    simp only [Service.run]
    cases firstRepeat? [] bs with
    | some b => exact sends_obey.imp fun _ _ _ _ => trivial
    | none => exact hunit (Quiet.completePayment id bs).inOrder
  | applyVerdicts id kind verdicts => exact hunit (Quiet.applyVerdicts id kind verdicts).inOrder

/-- A submission for which a unit of work is opened and which finds its assignee there. -/
def Crosses (c : Command) (w : World Script) : Prop :=
  ∃ id b kind entry unit a, c = .submit id b kind entry ∧
    (Script.link.openTransaction w.state).1 = .ok unit ∧
    (Script.link.assignee id b true unit).1 = .ok a

theorem ordered_submission (cap : Nat) (now : Instant) {id : CampaignId} {b : BloggerId}
    {kind : EntryKind} {entry : Option EntryId} {w : World Script}
    (h : ¬ Crosses (.submit id b kind entry) w) :
    Sent CampaignFirst w.state.notes
      ((Script.service cap now).run (.submit id b kind entry) w).2.state.notes := by
  simp only [Service.run, run_map]
  refine bracketing_campaignFirst.transact fun unit hopened _ => ?_
  refine sent_submit now id b kind entry (w := ⟨w.ids, unit⟩) fun a ha => h ?_
  exact ⟨id, b, kind, entry, unit, a, rfl, hopened, ha⟩

/-- The end of a unit of work adds to its notes. -/
theorem transact_suffix {α : Type} {body : Task Script α} {w : World Script} {unit : Script}
    (h : (Script.link.openTransaction w.state).1 = .ok unit) :
    (body ⟨w.ids, unit⟩).2.state.notes <:+
      (Script.link.store.transact body w).2.state.notes := by
  unfold Store.transact
  have hbegin : Script.link.store.begin w.state = Script.link.openTransaction w.state := rfl
  rw [hbegin]
  rcases hopened : Script.link.openTransaction w.state with ⟨r, state⟩
  rw [hopened] at h
  cases h
  dsimp only
  rcases body ⟨w.ids, unit⟩ with ⟨r, inner⟩
  cases r with
  | error f => exact (bracketing_campaignFirst.rollBack inner.state).suffix
  | ok a => exact (bracketing_campaignFirst.commit inner.state).suffix

/-- What a crossing submission is sent in its unit. -/
theorem crossing_suffix (cap : Nat) (now : Instant) {c : Command} {w : World Script}
    (h : Crosses c w) : ∃ id b r reply ns, IsOpen ns ∧ w.state.notes <:+ ns ∧
      (.select (.campaign id true), r) :: (.select (.assignee id b true), .ok reply) :: ns <:+
        ((Script.service cap now).run c w).2.state.notes := by
  obtain ⟨id, b, kind, entry, unit, a, rfl, hopened, ha⟩ := h
  obtain ⟨hopening, hunit⟩ := bracketing_campaignFirst.openTransaction w.state
  obtain ⟨hstate, hjust⟩ := hunit unit hopened
  rw [← hstate] at hopening
  obtain ⟨r, reply, hnotes⟩ := submit_suffix now id b kind entry (w := ⟨w.ids, unit⟩) ha
  refine ⟨id, b, r, reply, unit.notes, hjust.isOpen, hopening.suffix, hnotes.trans ?_⟩
  simp only [Service.run, run_map]
  exact transact_suffix hopened

/-- Campaigns are locked before assignees, in every unit of work and whatever is answered; the
exception are the submissions that find their assignee, all of which lock it first. -/
theorem lock_order (cap : Nat) (now : Instant) (c : Command) (w : World Script) :
    Sent CampaignFirst w.state.notes ((Script.service cap now).run c w).2.state.notes ↔
      ¬ Crosses c w := by
  constructor
  · intro hsent hcross
    obtain ⟨id, b, r, reply, ns, ⟨unit, hopen⟩, hbefore, hnotes⟩ := crossing_suffix cap now hcross
    have hfit := hsent.fit_of_suffix (hbefore.trans (List.suffix_cons _ _)) hnotes
    exact hfit _ _ rfl (.campaign id) (hopen.next rfl) _ _ List.mem_cons_self (.assignee id b)
  · intro hno
    by_cases hc : ∃ id b kind entry, c = .submit id b kind entry
    · obtain ⟨id, b, kind, entry, rfl⟩ := hc
      exact ordered_submission cap now hno
    · have hc : ∀ id b kind entry, c ≠ .submit id b kind entry :=
        fun id b kind entry h => hc ⟨id, b, kind, entry, h⟩
      exact (ordered_command cap now c hc _ w rfl).1

/-! ## Deadlocks -/

/-- Between the notes `ns` and `ns'` a selection is sent while the row of a table is held. -/
def Reaches (ns ns' : List Note) (t : Table) (id : String) (s : Selection) : Prop :=
  ∃ unit r, ns <:+ unit ∧ (.select s, r) :: unit <:+ ns' ∧ Held unit t id

/-- A run in order never asks for a campaign while it holds an assignee, so none that waits for a
campaign keeps another from an assignee. -/
theorem Sent.campaignFirst_reaches {ns ns' : List Note} {id : String} {s : Selection}
    (h : Sent CampaignFirst ns ns') (hs : s.Locks .campaign) :
    ¬ Reaches ns ns' .assignee id s := by
  rintro ⟨before, r, hbefore, hnotes, s', row, hs', ⟨unit, hunit, reply, hreply, _⟩, _⟩
  exact h.fit_of_suffix hbefore hnotes s unit rfl hs hunit s' _ hreply hs'

section Crossing

/-- The blogger of `invitedRow`, who writes an article now. -/
def writingRow : Row := invitedRow.set 4 (.int (code Stage.articlePosting))

def crossingScript : Script :=
  { replies := [{ rows := some [writingRow] }, { rows := some [lotteryRow] }] }

/-- The run of a submission. -/
def crossingRun : Except Fault Outcome × World Script :=
  (Script.service standardAssigneeCap ⟨0, 0⟩).run
    (.submit ⟨"campaign"⟩ ⟨"blogger"⟩ .entry (some ⟨"entry"⟩)) ⟨.counting, crossingScript⟩

/-- The notes of a unit of work that began with a selection of one row. -/
def openedWith (s : Selection) (row : Row) : List Note :=
  [(.select s, .ok { rows := [row], affected := 1 }), (.serializable, .ok {}), (.begin, .ok {})]

theorem held_openedWith {s : Selection} {t : Table} {row : Row} {id : String} {more : List Note}
    (hs : s.Locks t) (hid : row.head? = some (.string id))
    (hmore : ∀ n ∈ more, n.1.isBracket = false) : Held (more ++ openedWith s row) t id := by
  have hunit : OpenUnit (more ++ (openedWith s row).take 2) (more ++ openedWith s row) := by
    refine ⟨{}, [], by simp [openedWith], ?_⟩
    simpa [openedWith, or_imp, forall_and, Statement.isBracket] using hmore
  exact ⟨s, row, hs, ⟨_, hunit, _, List.mem_append_right more List.mem_cons_self,
    List.mem_cons_self⟩, hid⟩

/-- A submission is not in order. It asks for the campaign that the acceptance holds, and holds the
assignee that the acceptance asks for. -/
theorem crossed_locks :
    crossingRun.1.isOk = true ∧ ¬ Sent CampaignFirst [] crossingRun.2.state.notes ∧
    Reaches [] crossingRun.2.state.notes .assignee "assignee" (.campaign ⟨"campaign"⟩ true) ∧
    Reaches [] acceptanceRun.2.state.notes .campaign "campaign"
      (.assignee ⟨"campaign"⟩ ⟨"blogger"⟩ true) := by
  have hsubmission :
      Reaches [] crossingRun.2.state.notes .assignee "assignee" (.campaign ⟨"campaign"⟩ true) := by
    have hnotes : ∃ r, crossingRun.2.state.notes.drop 4 =
        (.select (.campaign ⟨"campaign"⟩ true), r) ::
          openedWith (.assignee ⟨"campaign"⟩ ⟨"blogger"⟩ true) writingRow := ⟨_, rfl⟩
    obtain ⟨r, hr⟩ := hnotes
    exact ⟨_, r, List.nil_suffix, hr ▸ List.drop_suffix 4 _,
      held_openedWith (.assignee _ _) rfl (List.forall_mem_nil _)⟩
  have hacceptance : Reaches [] acceptanceRun.2.state.notes .campaign "campaign"
      (.assignee ⟨"campaign"⟩ ⟨"blogger"⟩ true) := by
    have hnotes : ∃ r r' r'', acceptanceRun.2.state.notes.drop 2 =
        (.select (.assignee ⟨"campaign"⟩ ⟨"blogger"⟩ true), r) ::
          ([(.select (.description ⟨"campaign"⟩ false), r'),
            (.select (.schedules [⟨"campaign"⟩]), r'')] ++
            openedWith (.campaign ⟨"campaign"⟩ true) lotteryRow) := ⟨_, _, _, rfl⟩
    obtain ⟨r, r', r'', hr⟩ := hnotes
    refine ⟨_, r, List.nil_suffix, hr ▸ List.drop_suffix 2 _, held_openedWith (.campaign _) rfl ?_⟩
    simp [Statement.isBracket]
  exact ⟨rfl, fun h => h.campaignFirst_reaches (.campaign _) hsubmission, hsubmission, hacceptance⟩

end Crossing

end Sql

end Sponsorship
