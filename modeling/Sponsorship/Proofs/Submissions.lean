import Sponsorship.Proofs.Sound

/-!
# Sponsorship.Proofs.Submissions

The submissions of one kind by an assignee, in the order in which they were made.

* `Chronological`: the dates do not decrease; then the latest submission is the last one
  (`latest?_eq_getLast?`).
* `submissions_addExamination`, `Sound.submissions_judged`: what a submission and a verdict do to the
  submissions of any assignee.
-/

namespace Sponsorship

open Time

/-- An instant that is not before one that is not before a third is not before that either. -/
theorem Time.Instant.before_trans {a b c : Instant} (hba : b.before a = false)
    (hcb : c.before b = false) : c.before a = false := by
  simp only [before, Bool.or_eq_false_iff, decide_eq_false_iff_not, Bool.and_eq_false_iff] at *
  omega

/-- The dates do not decrease. -/
def Chronological (ts : List Instant) : Prop := ts.Pairwise fun s t => t.before s = false

theorem Chronological.concat {ts : List Instant} {t : Instant} (h : Chronological ts)
    (ht : ∀ s ∈ ts, t.before s = false) : Chronological (ts ++ [t]) := by
  refine List.pairwise_append.mpr ⟨h, List.pairwise_singleton _ _, fun s hs u hu => ?_⟩
  rw [List.mem_singleton.mp hu]
  exact ht s hs

theorem latest?_eq_getLast? {es : List Examination}
    (h : Chronological (es.map Examination.createdAt)) : latest? es = es.getLast? := by
  cases es with
  | nil => rfl
  | cons first rest =>
    rw [latest?]
    induction rest generalizing first with
    | nil => rfl
    | cons e rest ih =>
      have hrest : Chronological ((e :: rest).map Examination.createdAt) :=
        (List.pairwise_cons.mp h).2
      have hfirst : e.createdAt.before first.createdAt = false :=
        (List.pairwise_cons.mp h).1 _ (by simp)
      rw [List.foldl_cons, hfirst, if_neg Bool.false_ne_true, ih e hrest, List.getLast?_cons_cons]

theorem amend_concat {α κ : Type} [DecidableEq κ] {key : α → κ} {k : κ} {f : α → α} {as : List α}
    {a : α} (ha : key a = k) (hk : k ∉ as.map key) :
    amend key k f (as ++ [a]) = as ++ [f a] := by
  have : amend key k f (as ++ [a]) = amend key k f as ++ [f a] := by simp [amend, ha]
  rw [this, amend_of_notMem hk]

namespace Tables

variable {t : Tables} {id : CampaignId} {x : AssigneeId} {kind : EntryKind}

/-- When an assignee made its submissions of one kind. -/
def dates (t : Tables) (id : CampaignId) (x : AssigneeId) (kind : EntryKind) : List Instant :=
  (t.submissions id x kind).map Examination.createdAt

theorem submissions_addExamination (e : Examination) :
    (t.addExamination e).submissions id x kind = t.submissions id x kind ++
      if e.campaign = id ∧ e.assignee = x ∧ e.kind = kind then [e] else [] := by
  simp [submissions, addExamination, List.filter_append, List.filter_cons]

theorem dates_addExamination (e : Examination) :
    (t.addExamination e).dates id x kind = t.dates id x kind ++
      if e.campaign = id ∧ e.assignee = x ∧ e.kind = kind then [e.createdAt] else [] := by
  unfold dates
  rw [submissions_addExamination, List.map_append]
  split <;> rfl

theorem latestExamination?_eq
    (h : Chronological (t.dates id x kind)) :
    t.latestExamination? id x kind = (t.submissions id x kind).getLast?.map fun e =>
      { e with submissions := (t.submissions id x kind).length } := by
  rw [← latest?_eq_getLast? h]
  rfl

end Tables

namespace Sound

variable {w : World Tables} {id : CampaignId} {a : AssigneeId} {kind : EntryKind}
  {e e' : Examination} {v : Verdict}

theorem submissions_nodup (h : Sound w) (id : CampaignId) (x : AssigneeId) (kind : EntryKind) :
    ((w.state.submissions id x kind).map Examination.id).Nodup :=
  h.examinations.nodup.sublist (List.filter_sublist.map _)

/-- What was submitted before names campaigns that were there before. -/
theorem submissions_next (h : Sound w) (x : AssigneeId) (kind : EntryKind) :
    w.state.submissions w.ids.next.1 x kind = [] := by
  refine List.eq_nil_iff_forall_not_mem.mpr fun e he => ?_
  obtain ⟨hmem, hcampaign, _⟩ := Tables.mem_submissions.mp he
  exact Ids.next_ne_of_issued h.injective (h.owners e hmem).1 hcampaign.symm

/-- A verdict changes rows in their places. -/
theorem submissions_putExamination (h : Sound w) {o : Examination} (ho : o ∈ w.state.examinations)
    (hid : e'.id = o.id) (hc : e'.campaign = o.campaign) (ha : e'.assignee = o.assignee)
    (hk : e'.kind = o.kind) (c : CampaignId) (x : AssigneeId) (k : EntryKind) :
    (w.state.putExamination e').submissions c x k =
      amend Examination.id e'.id (fun r => { e' with submissions := r.submissions })
        (w.state.submissions c x k) := by
  refine filter_amend fun r hr hre => ?_
  have : r = o := List.inj_on_of_nodup_map h.examinations.nodup hr ho (hre.trans hid)
  subst this
  simp only [hc, ha, hk]

/-- A verdict does not touch the submissions of others and of other kinds. -/
theorem submissions_judged_other (h : Sound w)
    (he : w.state.latestExamination? id a kind = some e) (hj : e.judge v = .ok e')
    {c : CampaignId} {x : AssigneeId} {k : EntryKind} (hne : ¬ (x = a ∧ k = kind)) :
    (w.state.putExamination e').submissions c x k = w.state.submissions c x k := by
  obtain ⟨o, ho, hlatest, hid, hc, ha, hk⟩ := Tables.judged_row he hj
  rw [h.submissions_putExamination ho hid hc ha hk]
  refine amend_of_notMem fun hmem => ?_
  obtain ⟨r, hr, hre⟩ := List.mem_map.mp hmem
  obtain ⟨hr, _, hx, hkind⟩ := Tables.mem_submissions.mp hr
  have : r = o := List.inj_on_of_nodup_map h.examinations.nodup hr ho (hre.trans hid)
  subst this
  obtain ⟨_, _, ha', hk'⟩ := Tables.mem_submissions.mp (Tables.latest?_mem hlatest)
  exact hne ⟨hx.symm.trans ha', hkind.symm.trans hk'⟩

/-- A verdict is on the last submission. -/
theorem submissions_judged (h : Sound w)
    (hch : Chronological (w.state.dates id a kind))
    (he : w.state.latestExamination? id a kind = some e) (hj : e.judge v = .ok e') :
    ∃ o, (w.state.putExamination e').submissions id a kind =
      (w.state.submissions id a kind).dropLast ++ [o] ∧ o.passed = some v.passed := by
  obtain ⟨o, ho, hlatest, hid, hc, ha, hk⟩ := Tables.judged_row he hj
  rw [latest?_eq_getLast? hch] at hlatest
  obtain ⟨others, hothers⟩ := List.getLast?_eq_some_iff.mp hlatest
  have hd := h.submissions_nodup id a kind
  rw [hothers, List.map_append, List.nodup_append] at hd
  have hnot : e'.id ∉ others.map Examination.id := fun hmem =>
    hd.2.2 _ hmem o.id (by simp) hid
  refine ⟨{ e' with submissions := o.submissions }, ?_, ?_⟩
  · rw [h.submissions_putExamination ho hid hc ha hk, hothers, amend_concat hid.symm hnot,
      List.dropLast_concat]
  · obtain ⟨_, rfl⟩ := Examination.judge_ok.mp hj
    rfl

/-- A verdict leaves the dates alone. -/
theorem dates_judged (h : Sound w)
    (he : w.state.latestExamination? id a kind = some e) (hj : e.judge v = .ok e')
    (c : CampaignId) (x : AssigneeId) (k : EntryKind) :
    (w.state.putExamination e').dates c x k = w.state.dates c x k := by
  obtain ⟨o, ho, hlatest, hid, hc, ha, hk⟩ := Tables.judged_row he hj
  have hdate : e'.createdAt = o.createdAt := by
    obtain ⟨o', n, ho', rfl⟩ := Tables.latestExamination?_mem he
    obtain ⟨_, rfl⟩ := Examination.judge_ok.mp hj
    rw [ho'] at hlatest
    cases hlatest
    rfl
  unfold Tables.dates
  rw [h.submissions_putExamination ho hid hc ha hk, map_amend]
  intro r hr hre
  have hmem := (Tables.mem_submissions.mp hr).1
  have : r = o := List.inj_on_of_nodup_map h.examinations.nodup hmem ho (hre.trans hid)
  rw [this]
  exact hdate

end Sound

end Sponsorship
