import Sponsorship.Proofs.Completion

/-!
# Sponsorship.Proofs.Retry

A bulk command that is run again right after it succeeded.

* `tally_counts`: what a loop reports, if its steps move exactly the assignees with `p`.
* `Sweep`: where such a loop stands that takes assignees out of a stage. Those with `p` that it has met
  are gone from the stage, and the others wait there as before.
* `Repeats t u again`: once work `t` has succeeded, it succeeds again, changes nothing, and `again`
  relates the results.
* `tally_repeats`: a loop that swept a stage finds only those whom it left there.
* `invite_repeats` and its kin: the bulk commands; no move leads back to the stage that it starts from.
* `retry_harmless`: all of them, after every history.
-/

namespace Sponsorship

open Time

variable {now : Instant} {id : CampaignId} {u u' u'' : World Tables}

/-! ## Loops that sweep a stage -/

theorem tally_counts {σ : Type} {step : Assignee → Task σ Bool} {p : Assignee → Bool}
    {I : List Assignee → World σ → Prop} {E : Fault → Prop}
    (hstep : ∀ a rest w, I (a :: rest) w →
      Ends (step a) w (fun moved w' => moved = p a ∧ I rest w') E)
    (as : List Assignee) (w : World σ) (h : I as w) :
    Ends (tally step as) w (fun report w' =>
      report = { moved := as.countP p, skipped := as.countP fun a => !p a } ∧ I [] w') E := by
  induction as generalizing w with
  | nil => exact .pure ⟨rfl, h⟩
  | cons a rest ih =>
    refine .bind ((hstep a rest w h).imp fun moved w₁ h₁ => ?_)
    obtain ⟨rfl, h₁⟩ := h₁
    refine .bind ((ih w₁ h₁).imp fun report w₂ h₂ => .pure ⟨?_, h₂.2⟩)
    rw [h₂.1, List.countP_cons, List.countP_cons]
    cases p a <;> simp

/-- Where a loop stands that began at `u` and takes the assignees with `p` out of a stage. -/
structure Sweep (now : Instant) (id : CampaignId) (stage : Stage) (p : Assignee → Bool)
    (u : World Tables) (rest : List Assignee) (u' : World Tables) : Prop
    extends Pending now id (·.stage = stage) u rest u' where
  began : Sound u
  waiting : u'.state.assigneesOf id (some stage) =
    (u.state.assigneesOf id (some stage)).filter fun a => decide (a ∈ rest) || !p a

namespace Sweep

variable {stage : Stage} {p : Assignee → Bool} {a : Assignee} {rest : List Assignee}

theorem start (h : Sound u) (hrest : rest.Sublist (u.state.assigneesOf id (some stage)))
    (hall : ∀ a ∈ u.state.assigneesOf id (some stage), p a = true → a ∈ rest) :
    Sweep now id stage p u rest u where
  toPending := .start h (hrest.trans List.filter_sublist) fun a ha =>
    have ha := Tables.mem_assigneesOf.mp (hrest.subset ha)
    ⟨ha.2.1, ha.2.2 stage rfl⟩
  began := h
  waiting := by
    refine (List.filter_eq_self.mpr fun a ha => ?_).symm
    cases hp : p a with
    | true => simpa using hall a ha hp
    | false => simp

theorem skip (h : Sweep now id stage p u (a :: rest) u') (hp : p a = false) :
    Sweep now id stage p u rest u' where
  toPending := h.toPending.skip
  began := h.began
  waiting := by
    rw [h.waiting]
    refine List.filter_congr fun x _ => ?_
    by_cases hx : x = a
    · simp [hx, hp]
    · simp [hx]

/-- Whoever is put into another stage does not wait any more. -/
theorem put (h : Sweep now id stage p u (a :: rest) u') (hp : p a = true) {a' : Assignee}
    (hid : a'.id = a.id) (hstage : a'.stage ≠ stage) (hs : Advancing now id u' u'')
    (has : u''.state.assignees = (u'.state.putAssignee a').assignees)
    (hcs : u''.state.campaigns = u'.state.campaigns) : Sweep now id stage p u rest u'' where
  toPending := h.toPending.put hid hs has hcs
  began := h.began
  waiting := by
    have hgone : u''.state.assigneesOf id (some stage) =
        (u'.state.assigneesOf id (some stage)).filter fun x => x.id ≠ a'.id := by
      unfold Tables.assigneesOf
      rw [has]
      exact filter_amend_out fun _ _ _ => by simp [hstage]
    have hlisted : a ∈ u'.state.assigneesOf id (some stage) :=
      Tables.mem_assigneesOf.mpr ⟨h.head.1, h.head.2.1, fun s hs => by cases hs; exact h.head.2.2⟩
    rw [h.waiting] at hlisted
    have hbefore := (Tables.mem_assigneesOf.mp (List.mem_filter.mp hlisted).1).1
    rw [hgone, h.waiting, List.filter_filter]
    refine List.filter_congr fun x hx => ?_
    by_cases hxa : x = a
    · have hmet : a ∉ rest := fun hmem =>
        (List.nodup_cons.mp h.distinct).1 (List.mem_map_of_mem hmem)
      simp [hxa, hid, hmet, hp]
    · have hne : x.id ≠ a'.id := by
        rw [hid]
        exact fun heq => hxa (List.inj_on_of_nodup_map h.began.assignees.nodup
          (Tables.mem_assigneesOf.mp hx).1 hbefore heq)
      simp [hne, hxa]

/-- A plain step to another stage. -/
theorem advance (h : Sweep now id stage p u (a :: rest) u') (hp : p a = true) {c : Campaign}
    {m : Move} (hc : u.state.campaign? id = some c) (hm : m.Plain c.flags)
    (hs : m.sources = [stage]) (ht : m.target ≠ stage) :
    Ends (Store.memory.advance a m) u'
      (fun moved u'' => moved = p a ∧ Sweep now id stage p u rest u'') fun _ => True := by
  obtain ⟨ha, hid, _⟩ := h.head
  have hsource := h.stage_mem hs
  refine .bind (Task.obey_ends (fun a' ha' => ?_) fun _ _ => trivial)
  obtain ⟨_, rfl⟩ := Assignee.move_ok.mp ha'
  refine .bind (Call.updateAssignee_ends h.sound ?_ (.pure ⟨hp.symm, ?_⟩))
  · rw [Assignee.after_id]; exact h.head_key
  · refine h.put hp (a.after_id m) ?_ (.moves (h.campaign?.trans hc) ha hid hm hsource) rfl rfl
    rw [Assignee.after_stage]
    exact ht

/-- When everybody was met, those without `p` are left. -/
theorem left (h : Sweep now id stage p u [] u') : u'.state.assigneesOf id (some stage) =
    (u.state.assigneesOf id (some stage)).filter fun a => !p a := by
  simpa using h.waiting

end Sweep

/-- A loop over a stage that was swept before moves nobody and skips those whom it skipped before. -/
theorem tally_repeats {stage : Stage} {p : Assignee → Bool} {step : Assignee → Task Tables Bool}
    (h : Sound u)
    (hstep : ∀ a rest u', Sweep now id stage p u (a :: rest) u' →
      Ends (step a) u' (fun moved u'' => moved = p a ∧ Sweep now id stage p u rest u'')
        fun _ => True)
    (hskip : ∀ a u', p a = false → Idle (step a) u' false) :
    Ends (tally step (u.state.assigneesOf id (some stage))) u
      (fun report u' => Idle (tally step (u'.state.assigneesOf id (some stage))) u'
          { report with moved := 0 } ∧ u'.state.campaign? id = u.state.campaign? id)
      fun _ => True := by
  have hstart : Sweep now id stage p u (u.state.assigneesOf id (some stage)) u :=
    .start h (List.Sublist.refl _) fun _ ha _ => ha
  refine (tally_counts hstep _ u hstart).imp fun report u' hdone => ?_
  obtain ⟨rfl, hsweep⟩ := hdone
  refine ⟨?_, hsweep.campaign?⟩
  have hidle : Idle (tally step (u'.state.assigneesOf id (some stage))) u' _ := idle_tally fun a ha => by
    rw [hsweep.left] at ha
    exact hskip a u' (by simpa using (List.mem_filter.mp ha).2)
  rw [hsweep.left, ← List.countP_eq_length_filter] at hidle
  rw [hsweep.left]
  exact hidle

/-! ## Commands -/

/-- Once the work has succeeded it succeeds again, with a result that `again` relates to the first, and
changes nothing. -/
abbrev Repeats {α : Type} (t : Task Tables α) (u : World Tables) (again : α → α → Prop) : Prop :=
  Ends t u (fun a u' => ∃ b, Idle t u' b ∧ again a b) fun _ => True

/-- The report of a loop that moves nobody any more. -/
def Report.Still (first again : Report) : Prop := again = { first with moved := 0 }

/-- A bulk command that looks at its campaign and sweeps a stage. -/
theorem sweep_repeats {stage : Stage} {lock : Bool} {step : Campaign → Assignee → Task Tables Bool}
    (p : Assignee → Bool) (h : Sound u)
    (hstep : ∀ c, u.state.campaign? id = some c → ∀ a rest u',
      Sweep ⟨0, 0⟩ id stage p u (a :: rest) u' →
      Ends (step c a) u' (fun moved u'' => moved = p a ∧ Sweep ⟨0, 0⟩ id stage p u rest u'')
        fun _ => True)
    (hskip : ∀ c a u', p a = false → Idle (step c a) u' false) :
    Repeats (do
      let c : Campaign ← Store.memory.call (.getCampaign id lock)
      let assignees ← Store.memory.call (.listAssignees id (some stage) true)
      tally (step c) assignees) u Report.Still := by
  refine .bind (Call.getCampaign_ends (fun c hc => ?_) fun _ => trivial)
  refine .bind (Call.listAssignees_ends ?_)
  refine (tally_repeats h (hstep c hc) (hskip c)).imp fun report u' hI => ?_
  have hread : Idle (Store.memory.call (.getCampaign id lock)) u' c :=
    Call.idle_getCampaign (hI.2.trans hc)
  exact ⟨_, .bind hread (.bind (Call.idle rfl) hI.1), rfl⟩

theorem invite_repeats (h : Sound u) : Repeats (Store.memory.invite id) u Report.Still :=
  sweep_repeats (fun _ => true) h
    (fun c hc a rest u' hI => hI.advance (m := .invite) rfl hc trivial rfl (by decide))
    fun _ _ _ hp => by cases hp

theorem finishShipment_repeats (h : Sound u) :
    Repeats (Store.memory.finishShipment id) u Report.Still := by
  refine sweep_repeats (fun _ => true) h (fun c hc a rest u' hI => ?_) fun _ _ _ hp => by cases hp
  have ht : (Move.finishShipment c.flags.needsPreliminaryReview).target ≠ .shipment := by
    cases hneeds : c.flags.needsPreliminaryReview <;> simp [Move.target, Move.writing]
  exact hI.advance rfl hc rfl rfl ht

theorem applyLottery_repeats (h : Sound u) (results : Keyed BloggerId LotteryResult) :
    Repeats (Store.memory.applyLottery id results) u Report.Still := by
  refine sweep_repeats (fun a => (results.get? a.blogger).isSome) h (fun c hc a rest u' hI => ?_)
    fun c a u' hp => ?_
  · unfold Store.applyResult
    cases hr : results.get? a.blogger with
    | none => exact .pure ⟨rfl, hI.skip (by simp [hr])⟩
    | some r =>
      refine (hI.advance (by simp [hr]) hc (draw_plain c.flags r) (draw_sources c.flags r)
        (draw_target c.flags r)).imp fun moved u'' hq => ?_
      rw [hr] at hq
      exact hq
  · unfold Store.applyResult
    have hnone : results.get? a.blogger = none := by simpa using hp
    rw [hnone]
    exact .pure

/-- Those who were paid are not to be paid any more. -/
theorem completePayment_repeats (h : Sound u) (bloggers : List BloggerId) :
    Repeats (Store.memory.completePayment id bloggers) u
      fun _ again => again = { moved := 0, skipped := bloggers.length } := by
  refine .bind (Call.getCampaign_ends (fun c hc => ?_) fun _ => trivial)
  refine .bind (Call.assigneesAmong_ends ?_)
  let p : Assignee → Bool := fun a => bloggers.contains a.blogger
  have hstart : Sweep ⟨0, 0⟩ id .paying p u ((u.state.assigneesOf id (some .paying)).filter p) u :=
    .start h List.filter_sublist fun a ha hp => List.mem_filter.mpr ⟨ha, hp⟩
  let I : List Assignee → World Tables → Prop := fun rest u' =>
    Sweep ⟨0, 0⟩ id .paying p u rest u' ∧ ∀ a ∈ rest, p a = true
  refine .bind ((tally_ends (I := I) (fun a rest u' hI => ?_) _ u
    ⟨hstart, fun a ha => (List.mem_filter.mp ha).2⟩).imp fun report u' hI => .pure ?_)
  · obtain ⟨hsweep, hlisted⟩ := hI
    refine (hsweep.advance (m := .completePayment) (hlisted a List.mem_cons_self) hc trivial rfl
      (by decide)).imp fun _ u'' hq => ?_
    exact ⟨hq.2, fun b hb => hlisted b (List.mem_cons_of_mem a hb)⟩
  · have hnobody : (u'.state.assigneesOf id (some .paying)).filter p = [] := by
      rw [hI.1.left, List.filter_filter]
      exact List.filter_eq_nil_iff.mpr fun a _ => by simp
    have hread : Idle (Store.memory.call (.getCampaign id false)) u' c :=
      Call.idle_getCampaign (hI.1.campaign?.trans hc)
    have hlist : Idle (Store.memory.call (.assigneesAmong id bloggers (some .paying) true)) u' [] := by
      rw [← hnobody]
      exact Call.idle rfl
    exact ⟨_, .bind hread (.bind hlist (.bind .pure .pure)), rfl⟩

/-- A verdict leads away from the stage in which it was waited for; only another submission leads
back. -/
theorem judgement_target_ne (kind : EntryKind) (passed : Bool) :
    (Store.judgement kind passed).target ≠ Store.examinedStage kind := by
  cases kind <;> cases passed <;> decide

theorem applyVerdict_sweeps {kind : EntryKind} {verdicts : Keyed BloggerId Verdict} {a : Assignee}
    {rest : List Assignee} (h : Sweep ⟨0, 0⟩ id (Store.examinedStage kind)
      (fun a => (verdicts.get? a.blogger).isSome) u (a :: rest) u') :
    Ends (Store.memory.applyVerdict id kind verdicts a) u'
      (fun moved u'' => moved = (verdicts.get? a.blogger).isSome ∧
        Sweep ⟨0, 0⟩ id (Store.examinedStage kind) (fun a => (verdicts.get? a.blogger).isSome) u
          rest u'') fun _ => True := by
  obtain ⟨ha, hid, hstage⟩ := h.head
  unfold Store.applyVerdict
  cases hv : verdicts.get? a.blogger with
  | none => exact .pure ⟨rfl, h.skip (by simp [hv])⟩
  | some v =>
    refine .bind (Call.latestExamination_ends (fun e he => ?_) fun _ => trivial)
    refine .bind (Task.obey_ends (fun e' he' => ?_) fun _ _ => trivial)
    refine .bind (Task.obey_ends (fun a' ha' => ?_) fun _ _ => trivial)
    obtain ⟨_, rfl⟩ := Assignee.move_ok.mp ha'
    obtain ⟨o, ho, _, hkey, _⟩ := Tables.judged_row he he'
    refine .bind (Call.updateExamination_ends h.sound (List.mem_map.mpr ⟨o, ho, hkey.symm⟩) ?_)
    refine .bind (Call.updateAssignee_ends (h.sound.putJudged he he') ?_ (.pure ⟨rfl, ?_⟩))
    · rw [Assignee.after_id]; exact h.head_key
    · refine h.put (by simp [hv]) (a.after_id _) ?_ (.judges ha hid hstage he he') rfl rfl
      rw [Assignee.after_stage]
      exact judgement_target_ne kind v.passed

theorem applyVerdicts_repeats (h : Sound u) (kind : EntryKind)
    (verdicts : Keyed BloggerId Verdict) :
    Repeats (Store.memory.applyVerdicts id kind verdicts) u Report.Still := by
  refine .bind (Call.listAssignees_ends ?_)
  refine (tally_repeats h (fun a rest u' hI => applyVerdict_sweeps hI) fun a u' hp => ?_).imp
    fun report u' hI => ⟨_, .bind (Call.idle rfl) hI.1, rfl⟩
  unfold Store.applyVerdict
  have hnone : verdicts.get? a.blogger = none := by simpa using hp
  rw [hnone]
  exact .pure

theorem complete_repeats (h : Sound u) : Repeats (Store.memory.complete id) u fun n again => again = n :=
  (complete_finishes h).imp fun _ _ hdone =>
    ⟨_, hdone.2.1.idle_complete hdone.1, hdone.2.2.symm⟩

/-- The commands that work on many assignees at once. -/
def Command.Bulk : Command → Prop
  | .invite _ | .applyLottery _ _ | .finishShipment _ | .completePayment _ _ | .applyVerdicts _ _ _
  | .complete _ => True
  | _ => False

/-- What a bulk command answers that is run again: it moves nobody, and it skips those whom it
skipped before. Whoever is not to be paid any more is skipped too. -/
def Command.retried : Command → Outcome → Outcome
  | .completePayment _ bloggers, _ => .reported { moved := 0, skipped := bloggers.length }
  | _, .reported report => .reported { report with moved := 0 }
  | _, outcome => outcome

/-- The world after a unit of work that changed nothing. -/
def World.committed (w : World Memory) : World Memory :=
  { w with state := { w.state with commits := w.state.commits + 1 } }

theorem Repeats.run {α : Type} {body : Task Tables α} {again : α → α → Prop} {g : α → Outcome}
    {w w' : World Memory} {outcome : Outcome} (h : Repeats body w.unit again)
    (hrun : (g <$> Store.memory.transact body : Task Memory Outcome) w = (.ok outcome, w')) :
    ∃ a b, outcome = g a ∧ again a b ∧
      (g <$> Store.memory.transact body : Task Memory Outcome) w' = (.ok (g b), w'.committed) := by
  have hends : Ends (g <$> Store.memory.transact body : Task Memory Outcome) w
      (fun outcome w' => ∃ a b, outcome = g a ∧ again a b ∧ Idle body w'.unit b) fun _ => True :=
    .map (h.transact.imp fun a w' ⟨b, hidle, hagain⟩ => ⟨a, b, rfl, hagain, hidle⟩)
  obtain ⟨a, b, houtcome, hagain, hidle⟩ := hends.ok hrun
  refine ⟨a, b, houtcome, hagain, ?_⟩
  rw [run_map, transact_of_idle hidle]
  rfl

/-- After every history, a bulk command that succeeded succeeds again right after, whatever the
occasion. It moves nobody and changes nothing. -/
theorem retry_harmless (history : List Visit) {v : Visit} {outcome : Outcome}
    (hbulk : v.command.Bulk)
    (hrun : (v.service.run v.command (World.start.after history)).1 = .ok outcome) (o : Occasion) :
    o.service.run v.command (World.start.after (history ++ [v])) =
      (.ok (v.command.retried outcome), (World.start.after (history ++ [v])).committed) := by
  have h := sound_after history
  have hfirst : v.service.run v.command (World.start.after history) =
      (.ok outcome, World.start.after (history ++ [v])) := by
    rw [World.after_concat]
    exact Prod.ext hrun rfl
  cases hc : v.command with
  | invite id =>
    rw [hc] at hfirst
    obtain ⟨a, _, rfl, rfl, hagain⟩ := (invite_repeats h).run hfirst
    exact hagain
  | applyLottery id results =>
    rw [hc] at hfirst
    obtain ⟨a, _, rfl, rfl, hagain⟩ := (applyLottery_repeats h results).run hfirst
    exact hagain
  | finishShipment id =>
    rw [hc] at hfirst
    obtain ⟨a, _, rfl, rfl, hagain⟩ := (finishShipment_repeats h).run hfirst
    exact hagain
  | completePayment id bloggers =>
    rw [hc] at hfirst
    simp only [Service.run] at hfirst ⊢
    cases hrepeat : firstRepeat? [] bloggers with
    | some blogger => rw [hrepeat] at hfirst; cases hfirst
    | none =>
      rw [hrepeat] at hfirst
      obtain ⟨a, _, rfl, rfl, hagain⟩ := (completePayment_repeats h bloggers).run hfirst
      exact hagain
  | applyVerdicts id kind verdicts =>
    rw [hc] at hfirst
    obtain ⟨a, _, rfl, rfl, hagain⟩ := (applyVerdicts_repeats h kind verdicts).run hfirst
    exact hagain
  | complete id =>
    rw [hc] at hfirst
    obtain ⟨a, _, rfl, rfl, hagain⟩ := (complete_repeats h).run hfirst
    exact hagain
  | _ => rw [hc] at hbulk; exact hbulk.elim

/-- The article of the one who waits for a verdict passes. -/
def passingVisit : Visit :=
  visitAt 4 (.applyVerdicts ⟨"id-0001"⟩ .entry
    (Keyed.ofList [(⟨"blogger"⟩, { passed := true, examiner := "examiner" })]))

theorem retry_harmless_of_examinedCourse :
    (passingVisit.service.run passingVisit.command (World.start.after examinedCourse)).1 =
      .ok (.reported { moved := 1, skipped := 0 }) ∧
    anotherDay.service.run passingVisit.command
        (World.start.after (examinedCourse ++ [passingVisit])) =
      (.ok (.reported { moved := 0, skipped := 0 }),
        (World.start.after (examinedCourse ++ [passingVisit])).committed) := by
  have hrun : (passingVisit.service.run passingVisit.command (World.start.after examinedCourse)).1 =
      .ok (.reported { moved := 1, skipped := 0 }) := by decide +kernel
  exact ⟨hrun, retry_harmless (v := passingVisit) examinedCourse trivial hrun anotherDay⟩

end Sponsorship
