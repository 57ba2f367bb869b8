import Sponsorship.Proofs.ReviewGate
import Sponsorship.Proofs.Verdicts

/-!
# Sponsorship.Proofs.SubmissionLog

The submissions of a history, and the rows that are stored of them.

* `lasting_campaignGone`: a campaign that is gone does not come back.
* `submissionsMade`, `recorded_after`: the rows of a campaign are the submissions that were made.
* `LatestRows`: what was submitted last is what is read as the latest.
* `AppendsOnly`, `Visit.appendsOnly`: what a command may do to the rows of an assignee.
* `Settled.apply`: a row that later submissions follow does not change any more.
* `submissions_append_only`: so it is in every history whose clock does not go back.
-/

namespace Sponsorship

open Time

/-! ## Campaigns that are gone -/

/-- An identifier that is taken and that no campaign has. -/
def CampaignGone (id : CampaignId) (u : World Tables) : Prop :=
  u.ids.Issued id ∧ id ∉ u.state.campaignIds

/-- A campaign does not come back. -/
theorem lasting_campaignGone (id : CampaignId) : Lasting (CampaignGone id) := by
  refine ⟨fun h hl => ⟨h.1.later hl, h.2⟩, ?_, ?_⟩
  · rintro now id' u u' hu ⟨hissued, hgone⟩ hs
    refine ⟨hissued.later hs.later, fun hid => hgone ?_⟩
    cases hs with
    | answers hq ha hcampaign hstage hsheet =>
      rw [Tables.saveAnswers_eq] at hid
      exact hid
    | closes hc =>
      rw [Tables.campaignIds_putCampaign] at hid
      exact hid
    | deletes =>
      rw [Tables.campaignIds_deleteCampaign] at hid
      exact (List.mem_filter.mp hid).1
    | _ => exact hid
  · rintro now r id' u u' hu ⟨hissued, hgone⟩ hs
    refine ⟨hissued.later hs.later, fun hid => hgone ?_⟩
    cases hs with
    | @opens item variant c ids hr hopen hnew =>
      have hids : (u.state.addCampaign c).campaignIds = u.state.campaignIds ++ [c.id] :=
        List.map_append
      rw [hids] at hid
      rcases List.mem_append.mp hid with hid | hid
      · exact hid
      · rw [List.mem_singleton.mp hid, SaveRequest.opening_id hopen] at hissued
        exact absurd rfl (Ids.next_ne_of_issued hu.injective hissued)
    | revises hr hc hrev =>
      rw [Tables.campaignIds_putCampaign] at hid
      exact hid
    | _ => exact hid

/-! ## The log of a history -/

/-- The rows that the submissions of a history made, in their order. -/
def submissionsMade : World Memory → List Visit → List Examination
  | _, [] => []
  | w, v :: rest => (v.made w).toList ++ submissionsMade (v.apply w) rest

/-- The rows of every campaign that is not gone are the submissions of a log, but for verdicts. -/
def Recorded (w : World Memory) (log : List Examination) : Prop :=
  ∀ id, ¬ CampaignGone id w.unit →
    (w.state.tables.sent.filter fun e => e.campaign = id) = log.filter fun e => e.campaign = id

namespace Recorded

variable {w : World Memory} {log : List Examination}

/-- One command keeps the rows and the log together. -/
theorem apply (h : Recorded w log) (hw : Sound w.unit) (v : Visit) :
    Recorded (v.apply w) (log ++ (v.made w).toList) := by
  intro id hgone
  have hbefore : ¬ CampaignGone id w.unit := fun hg =>
    hgone ((lasting_campaignGone id).apply hw hg v)
  have hlog := h id hbefore
  cases v.rowEffect hw with
  | adds e hmade submits rows =>
    rw [hmade, Option.toList_some, List.filter_append, ← hlog, ← List.filter_append]
    have hsent : (v.apply w).state.tables.sent = w.state.tables.sent ++ [e] := by
      unfold Tables.sent
      rw [rows, List.map_append, List.map_singleton, submits.unjudged]
    rw [hsent]
  | deletes id' hv hmade rows =>
    rw [hmade, Option.toList_none, List.append_nil, ← hlog, rows]
    have hsent : (w.state.tables.deleteCampaign id').sent =
        w.state.tables.sent.filter fun e => e.campaign ≠ id' := by
      unfold Tables.sent
      rw [List.filter_map]
      rfl
    rw [hsent, List.filter_filter]
    refine List.filter_congr fun e he => ?_
    by_cases hid : e.campaign = id
    · -- a campaign with rows that is deleted is gone
      have hne : id ≠ id' := by
        rintro rfl
        obtain ⟨o, ho, rfl⟩ := List.mem_map.mp he
        have hissued : w.unit.ids.Issued id := hid ▸ (hw.owners o ho).1
        refine hgone ⟨(lasting_issued id).apply hw hissued v, fun hthere => ?_⟩
        change id ∈ (v.apply w).state.tables.campaignIds at hthere
        rw [rows, Tables.campaignIds_deleteCampaign, List.mem_filter] at hthere
        simp at hthere
      simp [hid, hne]
    · simp [hid]
  | revises hmade rows =>
    rw [hmade, Option.toList_none, List.append_nil, ← hlog, rows.sent]

theorem after (h : Recorded w log) (hw : Sound w.unit) (history : List Visit) :
    Recorded (w.after history) (log ++ submissionsMade w history) := by
  induction history generalizing w log with
  | nil =>
    rw [submissionsMade, List.append_nil]
    exact h
  | cons v rest ih =>
    have hstep := ih (h.apply hw v) (hw.apply v)
    rw [List.append_assoc] at hstep
    exact hstep

end Recorded

/-- The log of a whole history. -/
theorem recorded_after (history : List Visit) :
    Recorded (World.start.after history) (submissionsMade World.start history) := by
  have hnothing : Recorded World.start [] := fun _ _ => rfl
  exact hnothing.after sound_start history

/-- Submissions are dated by the clock of their commands. -/
theorem submissionsMade_dates {w : World Memory} (hw : Sound w.unit) (history : List Visit) :
    ((submissionsMade w history).map Examination.createdAt).Sublist
      (history.map fun v => v.now) := by
  induction history generalizing w with
  | nil => exact .slnil
  | cons v rest ih =>
    have hrest := ih (hw.apply v)
    rw [submissionsMade, List.map_append, List.map_cons]
    cases v.rowEffect hw with
    | adds e hmade submits rows =>
      rw [hmade, Option.toList_some, List.map_singleton, submits.createdAt]
      exact hrest.cons_cons v.now
    | deletes id hv hmade rows =>
      rw [hmade]
      exact hrest.cons v.now
    | revises hmade rows =>
      rw [hmade]
      exact hrest.cons v.now

/-- The submissions of one kind by an assignee. -/
def madeBy (log : List Examination) (id : CampaignId) (x : AssigneeId) (kind : EntryKind) :
    List Examination :=
  log.filter fun e => e.campaign = id ∧ e.assignee = x ∧ e.kind = kind

section Submitted

variable {w : World Memory} {log : List Examination} {id : CampaignId}

theorem Recorded.submissions (h : Recorded w log) (hid : id ∈ w.state.tables.campaignIds)
    (x : AssigneeId) (kind : EntryKind) :
    (w.state.tables.submissions id x kind).map Examination.unjudged = madeBy log id x kind := by
  have hrows := congrArg (List.filter fun e => decide (e.assignee = x ∧ e.kind = kind))
    (h id fun hg => hg.2 hid)
  simp only [List.filter_filter] at hrows
  rw [Tables.submissions_unjudged, madeBy]
  simp only [Bool.decide_and, Bool.and_comm] at hrows ⊢
  exact hrows

theorem Recorded.chronological (h : Recorded w log)
    (hlog : Chronological (log.map Examination.createdAt))
    (hid : id ∈ w.state.tables.campaignIds) (x : AssigneeId) (kind : EntryKind) :
    Chronological (w.state.tables.dates id x kind) := by
  have hdates : w.state.tables.dates id x kind =
      (madeBy log id x kind).map Examination.createdAt := by
    rw [← h.submissions hid x kind, List.map_map]
    rfl
  rw [hdates]
  exact hlog.sublist (List.filter_sublist.map _)

end Submitted

/-! ## The latest submissions -/

/-- The submissions of a log decide what is read as the latest. -/
structure LatestRows (t : Tables) (log : List Examination) : Prop where
  last : ∀ id ∈ t.campaignIds, ∀ x kind lock e, (madeBy log id x kind).getLast? = some e →
    ∃ row ∈ t.examinations, row.unjudged = e ∧ (t.answer (.latestExamination id x kind lock)).1 =
      .ok { row with submissions := (madeBy log id x kind).length }
  none : ∀ id ∈ t.campaignIds, ∀ x kind lock, madeBy log id x kind = [] →
    (t.answer (.latestExamination id x kind lock)).1 = .error (.notFound (.submission kind x))
  bulk : ∀ id kind, ∃ found, (t.answer (.latestExaminations id kind)).1 = .ok found ∧
    (∀ a ∈ t.assignees, a.campaign = id → ∀ lock,
      found.get? a.blogger = (t.answer (.latestExamination id a.id kind lock)).1.toOption) ∧
    ∀ b e, found.get? b = some e → ∃ a ∈ t.assignees, a.campaign = id ∧ a.blogger = b

/-- The rows of a campaign list each of its bloggers once. -/
theorem Owned.latestExaminations {t : Tables} (h : Owned t) {a : Assignee} (ha : a ∈ t.assignees)
    (kind : EntryKind) (e : Examination) :
    (a.blogger, e) ∈ ((t.assigneesOf a.campaign none).filterMap fun o =>
        (t.latestExamination? a.campaign o.id kind).map fun r => (o.blogger, r)) ↔
      t.latestExamination? a.campaign a.id kind = some e := by
  rw [List.mem_filterMap]
  constructor
  · rintro ⟨o, ho, hoe⟩
    obtain ⟨r, hr, hre⟩ := Option.map_eq_some_iff.mp hoe
    obtain ⟨hblogger, rfl⟩ := Prod.mk.inj hre
    obtain ⟨hmem, hcampaign, _⟩ := Tables.mem_assigneesOf.mp ho
    have hd := h.participations
    rw [Tables.participants, List.map_map] at hd
    rw [List.inj_on_of_nodup_map hd hmem ha (Prod.ext hcampaign hblogger)] at hr
    exact hr
  · intro he
    exact ⟨a, Tables.mem_assigneesOf.mpr ⟨ha, rfl, fun _ hs => by cases hs⟩, by rw [he]; rfl⟩

theorem latestRows {w : World Memory} {log : List Examination} (h : Recorded w log)
    (ho : Owned w.state.tables) (hlog : Chronological (log.map Examination.createdAt)) :
    LatestRows w.state.tables log := by
  have hlatest : ∀ id ∈ w.state.tables.campaignIds, ∀ x kind lock,
      (w.state.tables.answer (.latestExamination id x kind lock)).1 =
        Tables.found ((w.state.tables.submissions id x kind).getLast?.map fun e =>
          { e with submissions := (madeBy log id x kind).length }) (.submission kind x) := by
    intro id hid x kind lock
    have hlen := congrArg List.length (h.submissions hid x kind)
    rw [List.length_map] at hlen
    simp only [Tables.answer]
    rw [Tables.latestExamination?_eq (h.chronological hlog hid x kind), hlen]
  constructor
  · intro id hid x kind lock e he
    rw [← h.submissions hid x kind, List.getLast?_map] at he
    obtain ⟨row, hrow, hunjudged⟩ := Option.map_eq_some_iff.mp he
    have hmem := (Tables.mem_submissions.mp (List.mem_of_getLast? hrow)).1
    refine ⟨row, hmem, hunjudged, ?_⟩
    rw [hlatest id hid x kind lock, hrow]
    rfl
  · intro id hid x kind lock hnone
    have hrows := h.submissions hid x kind
    rw [hnone, List.map_eq_nil_iff] at hrows
    rw [hlatest id hid x kind lock, hrows]
    rfl
  · intro id kind
    refine ⟨_, rfl, ?_, ?_⟩
    · rintro a ha rfl lock
      rw [Keyed.get?_ofList_eq (ho.latestExaminations ha kind)]
      simp only [Tables.answer]
      cases w.state.tables.latestExamination? a.campaign a.id kind <;> rfl
    · intro b e he
      obtain ⟨a, ha, hae⟩ := List.mem_filterMap.mp (Keyed.mem_of_get?_ofList he)
      obtain ⟨r, _, hr⟩ := Option.map_eq_some_iff.mp hae
      obtain ⟨hmem, hcampaign, _⟩ := Tables.mem_assigneesOf.mp ha
      exact ⟨a, hmem, hcampaign, (Prod.mk.inj hr).1⟩

/-! ## What a command may do to the rows of an assignee -/

/-- The rows of other campaigns are left where a campaign is deleted. -/
theorem Tables.filter_deleteCampaign {t : Tables} {id : CampaignId} {p : Examination → Bool}
    (hp : ∀ e, p e = true → e.campaign ≠ id) :
    (t.deleteCampaign id).examinations.filter p = t.examinations.filter p := by
  unfold Tables.deleteCampaign
  rw [List.filter_filter]
  refine List.filter_congr fun e _ => ?_
  cases he : p e with
  | false => rfl
  | true => simp [hp e he]

/-- All rows of an assignee. -/
def Tables.rowsOf (t : Tables) (id : CampaignId) (x : AssigneeId) : List Examination :=
  t.examinations.filter fun e => e.campaign = id ∧ e.assignee = x

/-- The rows of an assignee stay in their places, one comes after them at most, and nothing changes
but the verdicts of rows that were the latest of their kind. -/
structure AppendsOnly (t t' : Tables) (id : CampaignId) (x : AssigneeId) : Prop where
  kept : (t.rowsOf id x).map Examination.unjudged <+: (t'.rowsOf id x).map Examination.unjudged
  added : (t'.rowsOf id x).length ≤ (t.rowsOf id x).length + 1
  same : ∀ (i : Nat) r r', (t.rowsOf id x)[i]? = some r → (t'.rowsOf id x)[i]? = some r' →
    r' = r ∨ t.IsLatest r

namespace AppendsOnly

variable {t t' : Tables} {id : CampaignId} {x : AssigneeId}

theorem of_eq (h : t'.rowsOf id x = t.rowsOf id x) : AppendsOnly t t' id x := by
  refine ⟨h ▸ List.prefix_rfl, h ▸ Nat.le_succ _, fun i r r' hr hr' => .inl ?_⟩
  rw [h, hr] at hr'
  exact (Option.some.inj hr').symm

theorem of_concat {e : Examination} (h : t'.rowsOf id x = t.rowsOf id x ++ [e]) :
    AppendsOnly t t' id x := by
  refine ⟨?_, by rw [h, List.length_append]; rfl, fun i r r' hr hr' => .inl ?_⟩
  · rw [h, List.map_append]
    exact List.prefix_append _ _
  · obtain ⟨hi, _⟩ := List.getElem?_eq_some_iff.mp hr
    rw [h, List.getElem?_append_left hi, hr] at hr'
    exact (Option.some.inj hr').symm

/-- A row in the same place that is not the row itself was judged. -/
theorem of_revised (hd : (t.examinations.map Examination.id).Nodup) (h : Revised t t') :
    AppendsOnly t t' id x := by
  have hunjudged : (t'.rowsOf id x).map Examination.unjudged =
      (t.rowsOf id x).map Examination.unjudged := by
    have hsent := congrArg (List.filter fun e => decide (e.campaign = id ∧ e.assignee = x)) h.sent
    simp only [Tables.sent, List.filter_map] at hsent
    exact hsent
  have hlen := congrArg List.length hunjudged
  rw [List.length_map, List.length_map] at hlen
  refine ⟨hunjudged ▸ List.prefix_rfl, by omega, fun i r r' hr hr' => ?_⟩
  have hmem := (List.mem_filter.mp (List.mem_of_getElem? hr)).1
  have hmem' := (List.mem_filter.mp (List.mem_of_getElem? hr')).1
  refine (h.latest r hmem).imp_left fun hkept => ?_
  have hid : r'.id = r.id := by
    have hat := congrArg (fun rows => rows[i]?) hunjudged
    simp only [List.getElem?_map, hr, hr', Option.map_some] at hat
    have hsame : r'.unjudged = r.unjudged := Option.some.inj hat
    change r'.unjudged.id = r.unjudged.id
    rw [hsame]
  exact List.inj_on_of_nodup_map (h.ids ▸ hd) hmem' hkept hid

end AppendsOnly

theorem Visit.appendsOnly {v : Visit} {w : World Memory} (hw : Sound w.unit) {id : CampaignId}
    (hv : v.command ≠ .delete id) (x : AssigneeId) :
    AppendsOnly w.state.tables (v.apply w).state.tables id x := by
  cases v.rowEffect hw with
  | adds e hmade submits rows =>
    by_cases he : e.campaign = id ∧ e.assignee = x
    · refine .of_concat (e := e) ?_
      simp only [Tables.rowsOf, rows, List.filter_append, List.filter_singleton, he]
      simp
    · refine .of_eq ?_
      simp only [Tables.rowsOf, rows, List.filter_append, List.filter_singleton, he]
      simp
  | deletes id' hdelete hmade rows =>
    refine .of_eq ?_
    have hne : id ≠ id' := fun hid => hv (hid ▸ hdelete)
    rw [rows]
    refine Tables.filter_deleteCampaign fun e he => ?_
    rw [(of_decide_eq_true he).1]
    exact hne
  | revises hmade rows => exact .of_revised hw.examinations.nodup rows

/-! ## Rows that do not change any more -/

theorem latest?_concat (es : List Examination) (e : Examination) :
    latest? (es ++ [e]) = some e ∨ latest? (es ++ [e]) = latest? es := by
  cases es with
  | nil => exact .inl rfl
  | cons first rest =>
    simp only [List.cons_append, latest?, List.foldl_append, List.foldl_cons, List.foldl_nil]
    split
    · exact .inr rfl
    · exact .inl rfl

/-- A row with a later submission of the same assignee and kind. -/
def Tables.Superseded (t : Tables) (e : Examination) : Prop :=
  ∃ later, [e, later].Sublist (t.submissions e.campaign e.assignee e.kind)

theorem Tables.Superseded.not_isLatest {t : Tables} {e : Examination} (h : t.Superseded e)
    (hd : (t.examinations.map Examination.id).Nodup)
    (hdates : Chronological (t.dates e.campaign e.assignee e.kind)) : ¬ t.IsLatest e := by
  intro hlatest
  unfold Tables.IsLatest at hlatest
  rw [latest?_eq_getLast? hdates] at hlatest
  obtain ⟨others, hothers⟩ := List.getLast?_eq_some_iff.mp hlatest
  obtain ⟨later, hlater⟩ := h
  have hrows : (t.submissions e.campaign e.assignee e.kind).Nodup :=
    (hd.of_map _).sublist List.filter_sublist
  rw [hothers] at hlater hrows
  obtain ⟨first, last, hsplit, hfirst, hlast⟩ := List.sublist_append_iff.mp hlater
  cases first with
  | nil =>
    have hlen := hlast.length_le
    rw [List.nil_append] at hsplit
    rw [← hsplit] at hlen
    exact absurd hlen (by simp)
  | cons o rest =>
    obtain ⟨rfl, _⟩ := List.cons.inj hsplit
    exact (List.nodup_append.mp hrows).2.2 e (hfirst.subset List.mem_cons_self) e
      (List.mem_singleton_self e) rfl

/-- A row that is not the latest of its kind, unless its campaign is gone. -/
def Settled (e : Examination) (w : World Memory) : Prop :=
  w.ids.Issued e.campaign ∧ (e.campaign ∈ w.state.tables.campaignIds →
    e ∈ w.state.tables.examinations ∧ ¬ w.state.tables.IsLatest e)

namespace Settled

variable {e : Examination} {w : World Memory}

/-- No command touches a row that is not the latest of its kind, except by deleting its campaign. -/
theorem apply (h : Settled e w) (hw : Sound w.unit) (v : Visit) : Settled e (v.apply w) := by
  refine ⟨(lasting_issued e.campaign).apply hw h.1 v, fun hthere => ?_⟩
  have hbefore : e.campaign ∈ w.state.tables.campaignIds := by
    by_contra hgone
    exact ((lasting_campaignGone e.campaign).apply hw ⟨h.1, hgone⟩ v).2 hthere
  obtain ⟨hmem, hnot⟩ := h.2 hbefore
  cases v.rowEffect hw with
  | adds r hmade submits rows =>
    refine ⟨rows ▸ List.mem_append_left _ hmem, fun hlatest => hnot ?_⟩
    have hd := (hw.apply v).examinations.nodup
    change ((v.apply w).state.tables.examinations.map Examination.id).Nodup at hd
    rw [rows, List.map_append, List.nodup_append] at hd
    have hne : r ≠ e := fun hre =>
      hd.2.2 e.id (List.mem_map_of_mem hmem) r.id (by simp) (congrArg Examination.id hre.symm)
    have hrows : (v.apply w).state.tables.submissions e.campaign e.assignee e.kind =
        (w.state.tables.addExamination r).submissions e.campaign e.assignee e.kind := by
      unfold Tables.submissions
      rw [rows]
      rfl
    unfold Tables.IsLatest at hlatest ⊢
    rw [hrows, Tables.submissions_addExamination] at hlatest
    split at hlatest
    · rcases latest?_concat (w.state.tables.submissions e.campaign e.assignee e.kind) r with hr | hr
      · rw [hr] at hlatest
        exact absurd (Option.some.inj hlatest) hne
      · rwa [hr] at hlatest
    · rwa [List.append_nil] at hlatest
  | deletes id hv hmade rows =>
    have hne : e.campaign ≠ id := by
      rw [rows, Tables.campaignIds_deleteCampaign, List.mem_filter] at hthere
      simpa using hthere.2
    refine ⟨?_, fun hlatest => hnot ?_⟩
    · rw [rows]
      exact List.mem_filter.mpr ⟨hmem, by simpa using hne⟩
    · have hrows : (w.state.tables.deleteCampaign id).submissions e.campaign e.assignee e.kind =
          w.state.tables.submissions e.campaign e.assignee e.kind := by
        refine Tables.filter_deleteCampaign fun r hr => ?_
        rw [(of_decide_eq_true hr).1]
        exact hne
      unfold Tables.IsLatest at hlatest ⊢
      rwa [rows, hrows] at hlatest
  | revises hmade rows =>
    exact ⟨(rows.latest e hmem).resolve_right hnot, fun hlatest =>
      hnot (rows.isLatest hw.examinations.nodup hmem hlatest)⟩

theorem after (h : Settled e w) (hw : Sound w.unit) (future : List Visit) :
    Settled e (w.after future) :=
  (World.after_induction (P := fun w => Sound w.unit ∧ Settled e w)
    (fun _ v h => ⟨h.1.apply v, h.2.apply h.1 v⟩) ⟨hw, h⟩ future).2

end Settled

/-! ## Histories -/

theorem Steady.past {past future : List Visit} (h : Steady (past ++ future)) : Steady past := by
  unfold Steady at h ⊢
  rw [List.map_append] at h
  exact (List.pairwise_append.mp h).1

theorem Steady.log {history : List Visit} (h : Steady history) :
    Chronological ((submissionsMade World.start history).map Examination.createdAt) :=
  List.Pairwise.sublist (submissionsMade_dates sound_start history) h

/-- The rows that the submissions of a history make are the commands' own, the last of an assignee
and kind is what is read as its latest, each command appends at most, and what later submissions
follow stays as it is while its campaign is there. -/
structure SubmissionHistory (history : List Visit) : Prop where
  made : ∀ past v future, history = past ++ v :: future → ∀ e,
    v.made (World.start.after past) = some e → v.Submits (World.start.after past).state.tables e
  latest : ∀ past future, history = past ++ future →
    LatestRows (World.start.after past).state.tables (submissionsMade World.start past)
  appends : ∀ past v future, history = past ++ v :: future → ∀ id x, v.command ≠ .delete id →
    AppendsOnly (World.start.after past).state.tables
      (World.start.after (past ++ [v])).state.tables id x
  superseded : ∀ past future, history = past ++ future → ∀ e,
    (World.start.after past).state.tables.Superseded e →
    e.campaign ∈ (World.start.after history).state.tables.campaignIds →
    e ∈ (World.start.after history).state.tables.examinations

/-- While the clock does not go back, submissions are a log that is only appended to. -/
theorem submissions_append_only {history : List Visit} (hclock : Steady history) :
    SubmissionHistory history := by
  constructor
  · rintro past v future - e he
    cases v.rowEffect (sound_after past) with
    | adds r hmade submits rows =>
      rw [hmade] at he
      exact Option.some.inj he ▸ submits
    | deletes id hv hmade rows => rw [hmade] at he; cases he
    | revises hmade rows => rw [hmade] at he; cases he
  · rintro past future rfl
    exact latestRows (recorded_after past) (owned_after past) hclock.past.log
  · rintro past v future - id x hv
    rw [World.after_concat]
    exact v.appendsOnly (sound_after past) hv x
  · rintro past future rfl e hsuperseded hthere
    have hw := sound_after past
    have hd : ((World.start.after past).state.tables.examinations.map Examination.id).Nodup :=
      hw.examinations.nodup
    obtain ⟨later, hlater⟩ := hsuperseded
    have hmem : e ∈ (World.start.after past).state.tables.examinations :=
      (Tables.mem_submissions.mp (hlater.subset List.mem_cons_self)).1
    have hcampaign := (owned_after past).examinations e hmem
    have hdates := (recorded_after past).chronological hclock.past.log hcampaign e.assignee e.kind
    have hsettled : Settled e (World.start.after past) :=
      ⟨(hw.owners e hmem).1, fun _ => ⟨hmem, Tables.Superseded.not_isLatest ⟨later, hlater⟩ hd hdates⟩⟩
    rw [World.after_append] at hthere ⊢
    exact ((hsettled.after hw future).2 hthere).1

/-- Two articles at one time; the first is rejected in between. -/
def tiedCourse : List Visit :=
  [visitAt 0 (.save reviewingRequest), visitAt 1 (.invite ⟨"id-0001"⟩),
    visitAt 2 (.answerInvitation ⟨"id-0001"⟩ ⟨"blogger"⟩ true {}),
    visitAt 3 (.submit ⟨"id-0001"⟩ ⟨"blogger"⟩ .entry (some ⟨"first"⟩)),
    visitAt 3 (.applyVerdicts ⟨"id-0001"⟩ .entry (Keyed.ofList
      [(⟨"blogger"⟩, { passed := false, examiner := "examiner", reason := some "reason" })])),
    visitAt 3 (.submit ⟨"id-0001"⟩ ⟨"blogger"⟩ .entry (some ⟨"second"⟩))]

/-- Of two articles at one time the second is the latest. -/
theorem submissions_append_only_of_tiedCourse :
    Steady tiedCourse ∧ SubmissionHistory tiedCourse ∧
      ∃ row ∈ (World.start.after tiedCourse).state.tables.examinations,
        row.entry = some ⟨"second"⟩ ∧ ((World.start.after tiedCourse).state.tables.answer
          (.latestExamination ⟨"id-0001"⟩ ⟨"id-0005"⟩ .entry false)).1 =
            .ok { row with submissions := 2 } := by
  have hsteady : Steady tiedCourse := by unfold Steady Chronological; decide +kernel
  have hhistory : SubmissionHistory tiedCourse := submissions_append_only hsteady
  have hthere : ⟨"id-0001"⟩ ∈ (World.start.after tiedCourse).state.tables.campaignIds := by
    decide +kernel
  have hmade : (madeBy (submissionsMade World.start tiedCourse) ⟨"id-0001"⟩ ⟨"id-0005"⟩
      .entry).length = 2 := by decide +kernel
  have hlast : ((madeBy (submissionsMade World.start tiedCourse) ⟨"id-0001"⟩ ⟨"id-0005"⟩
      .entry).getLast?.bind Examination.entry) = some ⟨"second"⟩ := by decide +kernel
  obtain ⟨e, he, hentry⟩ := Option.bind_eq_some_iff.mp hlast
  obtain ⟨row, hrow, hunjudged, hread⟩ := (hhistory.latest tiedCourse [] (List.append_nil _).symm).last
    _ hthere ⟨"id-0005"⟩ .entry false e he
  refine ⟨hsteady, hhistory, row, hrow, ?_, hmade ▸ hread⟩
  rw [← hentry, ← hunjudged]
  rfl

end Sponsorship
