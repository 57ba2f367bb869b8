import Sponsorship.Proofs.Locking
import Sponsorship.Proofs.StoredCodes

/-!
# Sponsorship.Proofs.StoredReplies

What the reads of the store in a database make of the replies that they receive.

* `Selection.layout`: what the rows of a selection are read as, and which of their values are decoded.
* `Note.Expected`, `Note.stored`: a reply whose columns have their types; the values that have to
  decode.
* `Gathers t ns Q`: `Q` holds of everything that was noted and of the result. One rule for each way
  work is put together and for each way a link is asked.
* `Conclusive`: if the replies are as expected, then a result means that their values decode, and a
  fault names one that does not. One lemma for each read.
* `Restores`: campaigns are those of the rows, each with its own schedules.
* `Faithful`, `reads_decode`: what a call that reads makes of what it received.
-/

namespace Sponsorship.Sql

/-! ## Replies -/

/-- What rows are read as, and which of their values are decoded. -/
structure Layout where
  {α : Type}
  columns : Columns α
  values : α → List StoredValue

/-- The values of a row that have to decode. -/
def Layout.stored (l : Layout) (row : Row) : List StoredValue :=
  match l.columns.read row with
  | .ok a => l.values a
  | .error _ => []

namespace Selection

def layout : Selection → Layout
  | .campaign _ _ | .campaigns _ _ | .campaignPage _ _ _ _ =>
    ⟨CampaignRow.columns, CampaignRow.values⟩
  | .schedules _ => ⟨ScheduleRow.columns, ScheduleRow.values⟩
  | .assignee _ _ _ | .assignees _ _ _ | .assigneesAmong _ _ _ _ | .assigneesStanding _
  | .participations _ => ⟨AssigneeRow.columns, AssigneeRow.values⟩
  | .stageCounts _ => ⟨StageCountRow.columns, StageCountRow.values⟩
  | .latestExamination _ _ _ _ => ⟨ExaminationRow.columns, ExaminationRow.values⟩
  | .examinationCount _ _ _ => ⟨.sole "COUNT(*)" .integer, fun n => [.count n]⟩
  | .latestExaminations _ _ =>
    ⟨ExaminationRow.countedColumns, fun r => r.1.values ++ [.count r.2]⟩
  | .questions _ => ⟨QuestionRow.columns, QuestionRow.values⟩
  | .campaignCount _ => ⟨.sole "COUNT(*)" .integer, fun _ => []⟩
  | .campaignsEnding _ _ => ⟨.sole "o.id" (.id : Cell CampaignId), fun _ => []⟩
  | .description _ _ => ⟨.sole "description" .text, fun _ => []⟩
  | .answers _ _ => ⟨answerColumns, fun _ => []⟩
  | .payloads _ _ => ⟨.sole "payload" (.document fun d => .ok d), fun _ => []⟩

/-- No row but the first is looked at. -/
def isSingle : Selection → Bool
  | .campaign _ _ | .campaignCount _ | .assignee _ _ _ | .latestExamination _ _ _ _
  | .examinationCount _ _ _ | .description _ _ => true
  | _ => false

/-- Without a row there is nothing to return. -/
def needsRow : Selection → Bool
  | .description _ _ => false
  | s => s.isSingle

/-- The rows that are looked at. -/
def taken (s : Selection) (reply : Reply) : List Row :=
  if s.isSingle then reply.rows.take 1 else reply.rows

/-- The columns have their types, and there is a row where one is needed. -/
structure Expects (s : Selection) (reply : Reply) : Prop where
  typed : ∀ row ∈ s.taken reply, ∃ a, s.layout.columns.read row = .ok a
  row : s.needsRow = true → reply.rows ≠ []

instance (s : Selection) : DecidablePred s.Expects := fun reply =>
  decidable_of_iff ((∀ row ∈ s.taken reply, (s.layout.columns.read row).isOk = true) ∧
      (s.needsRow = true → reply.rows.isEmpty = false)) <| by
    have htyped : ∀ row, (s.layout.columns.read row).isOk = true ↔
        ∃ a, s.layout.columns.read row = .ok a := by
      intro row
      cases s.layout.columns.read row with
      | error e => simp [Except.isOk, Except.toBool]
      | ok a => simp [Except.isOk, Except.toBool]
    simp only [htyped, List.isEmpty_eq_false_iff]
    exact ⟨fun h => ⟨h.1, h.2⟩, fun h => ⟨h.typed, h.row⟩⟩

def campaignRows (s : Selection) (reply : Reply) : List CampaignRow :=
  match s with
  | .campaign _ _ | .campaigns _ _ | .campaignPage _ _ _ _ =>
    (s.taken reply).filterMap fun row => (CampaignRow.columns.read row).toOption
  | _ => []

def scheduleRows (s : Selection) (reply : Reply) : List ScheduleRow :=
  match s with
  | .schedules _ => (s.taken reply).filterMap fun row => (ScheduleRow.columns.read row).toOption
  | _ => []

end Selection

namespace Note

def Expected : Note → Prop
  | (.select s, .ok reply) => s.Expects reply
  | _ => False

instance : DecidablePred Expected
  | (.select s, .ok reply) => inferInstanceAs (Decidable (s.Expects reply))
  | (.select _, .error _) | (.begin, _) | (.serializable, _) | (.commit, _) | (.rollback, _)
  | (.probe, _) | (.insert _ _ _, _) | (.update _ _ _, _) | (.delete _ _ _, _) | (.retire _, _) =>
    inferInstanceAs (Decidable False)

def stored : Note → List StoredValue
  | (.select s, .ok reply) => (s.taken reply).flatMap s.layout.stored
  | _ => []

def campaignRows : Note → List CampaignRow
  | (.select s, .ok reply) => s.campaignRows reply
  | _ => []

def scheduleRows : Note → List ScheduleRow
  | (.select s, .ok reply) => s.scheduleRows reply
  | _ => []

end Note

/-! ## Calls that read -/

end Sql

namespace Call

def isRead : Call → Bool
  | .getCampaign _ _ | .campaignsAmong _ _ | .listCampaigns _ | .searchCampaigns _ _
  | .campaignsEnding _ _ | .getAssignee _ _ _ | .listAssignees _ _ _ | .assigneesAmong _ _ _ _
  | .assigneesUnderExamination | .participations _ | .countStages _ | .latestExamination _ _ _ _
  | .latestExaminations _ _ | .findQuestionnaire _ _ | .listAnswers _ _ => true
  | _ => false

/-- A page is sorted by keys that there are. -/
def Sorts : Call → Prop
  | .listCampaigns condition | .searchCampaigns _ condition => condition.Sorts
  | _ => True

/-- The campaigns that a call returns. -/
def campaigns : (c : Call) → c.Reply → List Campaign
  | .getCampaign _ _, c => [c]
  | .campaignsAmong _ _, cs => cs
  | .listCampaigns _, p => p.campaigns
  | .searchCampaigns _ _, p => p.campaigns
  | _, _ => []

end Call

namespace Sql

/-! ## Work with what it notes -/

section Gathering

variable {α β : Type} {ns : List Note} {Q : List Note → Except Fault α → Prop}

/-- However the connection answers: after work that began with the notes `ns`, `Q` holds of the notes
and of the result. -/
def Gathers (t : Exchange Script α) (ns : List Note) (Q : List Note → Except Fault α → Prop) : Prop :=
  ∀ s, ∃ more, (t s).2.notes = more ++ s.notes ∧ Q (more ++ ns) (t s).1

theorem Gathers.mono {Q' : List Note → Except Fault α → Prop} {t : Exchange Script α}
    (h : Gathers t ns Q) (hq : ∀ ns r, Q ns r → Q' ns r) : Gathers t ns Q' := by
  intro s
  obtain ⟨more, hnotes, h⟩ := h s
  exact ⟨more, hnotes, hq _ _ h⟩

/-- Work that sends nothing. -/
theorem Gathers.still {r : Except Fault α} (h : Q ns r) : Gathers (fun s => (r, s)) ns Q :=
  fun _ => ⟨[], rfl, h⟩

theorem Gathers.bind {x : Exchange Script α} {f : α → Exchange Script β}
    {Q : List Note → Except Fault β → Prop}
    (h : Gathers x ns fun ns' r => match r with
      | .ok a => Gathers (f a) ns' Q
      | .error e => Q ns' (.error e)) : Gathers (x >>= f) ns Q := by
  intro s
  obtain ⟨more, hnotes, hq⟩ := h s
  rw [run_bind]
  rcases hx : x s with ⟨r, s'⟩
  rw [hx] at hnotes hq
  cases r with
  | error e => exact ⟨more, hnotes, hq⟩
  | ok a =>
    obtain ⟨more', hnotes', hq'⟩ := hq s'
    refine ⟨more' ++ more, ?_, ?_⟩
    · rw [hnotes', hnotes, List.append_assoc]
    · rw [List.append_assoc]
      exact hq'

theorem gathers_exchange {st : Statement} {Q : List Note → Except Fault Reply → Prop}
    (h : ∀ r, Q ((st, r) :: ns) (r.mapError Rejection.fault)) :
    Gathers (Script.link.exchange st) ns Q := by
  intro s
  rcases hsend : s.answer st with ⟨r, replies⟩
  have hrun : Script.link.exchange st s =
      (r.mapError Rejection.fault, { s with replies, notes := (st, r) :: s.notes }) := by
    simp only [Link.exchange, Script.link, hsend]
  rw [hrun]
  exact ⟨[(st, r)], rfl, h r⟩

theorem gathers_readable {r : Except Outage α} (h : Q ns (r.mapError .infrastructure)) :
    Gathers (readable r) ns Q := .still h

end Gathering

/-! ## What reads come to -/

/-- If all replies are as expected, a result means that their values decode, and `P` holds of it; a
fault names one that does not decode. -/
def Conclusive {α : Type} (P : List Note → α → Prop) (ns : List Note) (r : Except Fault α) : Prop :=
  (∀ n ∈ ns, n.Expected) →
    match r with
    | .ok a => (∀ v ∈ ns.flatMap Note.stored, v.Decodes) ∧ P ns a
    | .error f => ∃ v ∈ ns.flatMap Note.stored, ¬ v.Decodes ∧ f = .infrastructure v.outage

section Conclusions

variable {α β : Type} {P : List Note → α → Prop} {ns : List Note} {s : Selection} {cs : Columns β}
  {values : β → List StoredValue}

theorem Conclusive.unexpected {n : Note} {r : Except Fault α} (h : ¬ n.Expected) :
    Conclusive P (n :: ns) r :=
  fun hexpected => absurd (hexpected n List.mem_cons_self) h

theorem Conclusive.mono {P' : List Note → α → Prop} {r : Except Fault α} (h : Conclusive P ns r)
    (hp : ∀ a, P ns a → P' ns a) : Conclusive P' ns r := by
  intro hexpected
  cases r with
  | error e => exact h hexpected
  | ok a => exact ⟨(h hexpected).1, hp a (h hexpected).2⟩

/-- The values that have to decode are checked at the end. -/
theorem Conclusive.of_checks {r : Except Outage α} {vs : List StoredValue} (h : Checks vs r)
    (hmem : ∀ v, v ∈ vs ↔ v ∈ ns.flatMap Note.stored) (hp : ∀ a, r = .ok a → P ns a) :
    Conclusive P ns (r.mapError .infrastructure) := by
  intro _
  have hall := h.congr hmem
  cases r with
  | ok a => exact ⟨hall, hp a rfl⟩
  | error e =>
    obtain ⟨v, hv, hbad, rfl⟩ := hall
    exact ⟨v, hv, hbad, rfl⟩

/-- Rows that cannot be read do not have their types. -/
theorem not_expects {reply : Reply} {e : Outage} (hlayout : s.layout = ⟨cs, values⟩)
    (h : (s.taken reply).mapM cs.read = .error e) : ¬ s.Expects reply := by
  intro hexpects
  have htyped := hexpects.typed
  rw [hlayout] at htyped
  obtain ⟨as, has⟩ := Except.mapM_isOk_iff.mpr htyped
  rw [h] at has
  cases has

/-- The rows that are looked at were read, and these are the values that have to decode. -/
structure ReadAs (s : Selection) (cs : Columns β) (values : β → List StoredValue) (reply : Reply)
    (bs : List β) : Prop where
  stored : Note.stored (.select s, .ok reply) = bs.flatMap values
  rows : (s.taken reply).filterMap (fun row => (cs.read row).toOption) = bs

theorem readAs_of_mapM {reply : Reply} {bs : List β} (hlayout : s.layout = ⟨cs, values⟩)
    (h : (s.taken reply).mapM cs.read = .ok bs) : ReadAs s cs values reply bs := by
  have hall := Except.mapM_forall₂ h
  clear h
  constructor
  · change (s.taken reply).flatMap s.layout.stored = _
    rw [hlayout]
    generalize s.taken reply = rows at hall
    induction hall with
    | nil => rfl
    | cons hb _ ih =>
      rw [List.flatMap_cons, List.flatMap_cons, ← ih]
      simp only [Layout.stored, hb]
  · generalize s.taken reply = rows at hall
    induction hall with
    | nil => rfl
    | cons hb _ ih => rw [List.filterMap_cons_some (by rw [hb]; rfl), ih]

theorem gathers_all {f : List β → Exchange Script α} (hlayout : s.layout = ⟨cs, values⟩)
    (hs : s.isSingle = false)
    (h : ∀ reply bs, ReadAs s cs values reply bs →
      Gathers (f bs) ((.select s, .ok reply) :: ns) (Conclusive P)) :
    Gathers (Script.link.all s cs >>= f) ns (Conclusive P) := by
  refine .bind (.bind (gathers_exchange fun r => ?_))
  cases r with
  | error rejection => exact .unexpected id
  | ok reply =>
    have htaken : s.taken reply = reply.rows := by rw [Selection.taken, hs]; rfl
    refine gathers_readable ?_
    rw [← htaken]
    cases hread : (s.taken reply).mapM cs.read with
    | error e => exact .unexpected (not_expects hlayout hread)
    | ok bs => exact h reply bs (readAs_of_mapM hlayout hread)

theorem gathers_first {f : Option β → Exchange Script α} (hlayout : s.layout = ⟨cs, values⟩)
    (hs : s.isSingle = true)
    (hnone : ∀ reply, reply.rows = [] → Gathers (f none) ((.select s, .ok reply) :: ns) (Conclusive P))
    (hsome : ∀ reply b, ReadAs s cs values reply [b] →
      Gathers (f (some b)) ((.select s, .ok reply) :: ns) (Conclusive P)) :
    Gathers (Script.link.first? s cs >>= f) ns (Conclusive P) := by
  refine .bind (.bind (gathers_exchange fun r => ?_))
  cases r with
  | error rejection => exact .unexpected id
  | ok reply =>
    obtain ⟨rows, affected⟩ := reply
    cases rows with
    | nil => exact .still (hnone _ rfl)
    | cons row rest =>
      have htaken : (s.taken ⟨row :: rest, affected⟩).mapM cs.read =
          (cs.read row >>= fun b => .ok [b]) := by
        rw [Selection.taken, hs]
        rfl
      refine .bind (gathers_readable ?_)
      cases hread : cs.read row with
      | error e =>
        rw [hread] at htaken
        exact .unexpected (not_expects hlayout htaken)
      | ok b =>
        rw [hread] at htaken
        exact .still (hsome _ b (readAs_of_mapM hlayout htaken))

/-- A reply without a row where one is needed. -/
theorem conclusive_of_empty {reply : Reply} {r : Except Fault α} (hs : s.needsRow = true)
    (hrows : reply.rows = []) : Conclusive P ((.select s, .ok reply) :: ns) r :=
  .unexpected fun hexpects => hexpects.row hs hrows

theorem gathers_only {f : β → Exchange Script α} (hlayout : s.layout = ⟨cs, values⟩)
    (hs : s.isSingle = true) (hrow : s.needsRow = true)
    (h : ∀ reply b, ReadAs s cs values reply [b] →
      Gathers (f b) ((.select s, .ok reply) :: ns) (Conclusive P)) :
    Gathers (Script.link.only s cs >>= f) ns (Conclusive P) := by
  unfold Link.only
  rw [bind_assoc]
  exact gathers_first hlayout hs (fun _ hrows => .still (conclusive_of_empty hrow hrows)) h

/-- Work goes on with what was read, of which everything decoded. -/
theorem Gathers.andThen {P : List Note → β → Prop} {P' : List Note → α → Prop}
    {x : Exchange Script β} {f : β → Exchange Script α} (h : Gathers x ns (Conclusive P))
    (hf : ∀ ns' b, Conclusive P ns' (.ok b) → Gathers (f b) ns' (Conclusive P')) :
    Gathers (x >>= f) ns (Conclusive P') := by
  refine .bind (h.mono fun ns' r hr => ?_)
  cases r with
  | error e => exact hr
  | ok b => exact hf ns' b hr

end Conclusions

theorem readable_bind {σ α β : Type} (r : Except Outage α) (f : α → Except Outage β) :
    (readable r >>= fun a => readable (f a) : Exchange σ β) = readable (r >>= f) := by
  cases r with
  | error e => rfl
  | ok a => rfl

/-! ## Each way of reading -/

/-- Where the campaign rows are of different campaigns, each campaign is made of its own row, and of
those schedule rows that have its identifier. -/
def Restores {α : Type} (k : α → List Campaign) (ns : List Note) (a : α) : Prop :=
  ((ns.flatMap Note.campaignRows).map CampaignRow.id).Nodup →
    List.Forall₂ (MadeOf (ns.flatMap Note.scheduleRows)) (ns.flatMap Note.campaignRows) (k a)

theorem Restores.none {α : Type} {ns : List Note} {a : α}
    (h : ns.flatMap Note.campaignRows = []) : Restores (fun _ => []) ns a := by
  intro _
  rw [h]
  exact .nil

section Reads

variable {ns : List Note}

/-- These campaign rows are all that was received that has to decode. -/
structure RowsOnly (rows : List CampaignRow) (ns : List Note) : Prop where
  stored : ns.flatMap Note.stored = rows.flatMap CampaignRow.values
  campaigns : ns.flatMap Note.campaignRows = rows
  schedules : ns.flatMap Note.scheduleRows = []

theorem gathers_assemble {rows : List CampaignRow} (h : RowsOnly rows ns) :
    Gathers (Script.link.assemble rows) ns
      (Conclusive fun ns' cs => cs.length = rows.length ∧ Restores id ns' cs) := by
  unfold Link.assemble
  refine gathers_all rfl rfl fun reply scheduleRows hread => ?_
  rw [readable_bind]
  have hchecks : Checks (scheduleRows.flatMap ScheduleRow.values ++ rows.flatMap CampaignRow.values)
      (scheduleRows.mapM (fun r => do return (r.campaign, ← r.schedule)) >>= fun schedules =>
        assembled schedules rows) :=
    (Checks.mapM fun r => (ScheduleRow.checks r).thenOk).bind fun _ _ => checks_assembled _ _
  refine gathers_readable (.of_checks hchecks (fun v => ?_) fun cs hcs => ?_)
  · rw [List.flatMap_cons, hread.stored, h.stored]
  · obtain ⟨schedules, hschedules, hcs⟩ := Except.bind_ok.mp hcs
    refine ⟨assembled_length hcs, fun hd => ?_⟩
    have hrows : ((Statement.select (.schedules (rows.map CampaignRow.id)),
        Except.ok reply) :: ns).flatMap Note.campaignRows = rows := h.campaigns
    have hschedule : ((Statement.select (.schedules (rows.map CampaignRow.id)),
        Except.ok reply) :: ns).flatMap Note.scheduleRows = scheduleRows := by
      rw [List.flatMap_cons, h.schedules, List.append_nil]
      exact hread.rows
    rw [hrows] at hd ⊢
    rw [hschedule]
    exact madeOf_assembled hd hschedules hcs

theorem rowsOnly_nil : RowsOnly [] [] := ⟨rfl, rfl, rfl⟩

/-- Campaign rows are received, after nothing that has to decode. -/
theorem RowsOnly.received {s : Selection} {reply : Reply} {rows : List CampaignRow}
    (h : RowsOnly [] ns) (hread : ReadAs s CampaignRow.columns CampaignRow.values reply rows)
    (hcampaigns : s.campaignRows reply =
      (s.taken reply).filterMap fun row => (CampaignRow.columns.read row).toOption)
    (hschedules : s.scheduleRows reply = []) :
    RowsOnly rows ((.select s, .ok reply) :: ns) := by
  constructor
  · rw [List.flatMap_cons, h.stored, hread.stored, List.flatMap_nil, List.append_nil]
  · rw [List.flatMap_cons, h.campaigns, List.append_nil]
    exact hcampaigns.trans hread.rows
  · rw [List.flatMap_cons, h.schedules, List.append_nil]
    exact hschedules

theorem gathers_campaign (id : CampaignId) (lock : Bool) :
    Gathers (Script.link.campaign id lock) [] (Conclusive (Restores fun c => [c])) := by
  have hneeds : (Selection.campaign id lock).needsRow = true := rfl
  unfold Link.campaign
  refine gathers_first rfl rfl (fun reply hrows => .still (conclusive_of_empty hneeds hrows))
    fun reply row hread => ?_
  refine (gathers_assemble (rowsOnly_nil.received hread rfl rfl)).andThen fun ns' cs hcs => ?_
  cases cs with
  | nil => exact .still fun hexpected => absurd (hcs hexpected).2.1 (by simp)
  | cons c rest =>
    refine .still fun hexpected => ⟨(hcs hexpected).1, ?_⟩
    obtain ⟨hlength, hrestores⟩ := (hcs hexpected).2
    cases List.eq_nil_of_length_eq_zero (Nat.succ.inj hlength)
    exact hrestores

theorem gathers_campaignsAmong (ids : List CampaignId) (includeClosed : Bool) :
    Gathers (Script.link.answer (.campaignsAmong ids includeClosed)) []
      (Conclusive (Restores id)) :=
  gathers_all rfl rfl fun _ _ hread =>
    (gathers_assemble (rowsOnly_nil.received hread rfl rfl)).mono fun _ _ hr => hr.mono fun _ h => h.2

theorem gathers_page (criteria : SearchCriteria) {condition : ListCondition}
    (hsorts : condition.Sorts) :
    Gathers (Script.link.page criteria condition) [] (Conclusive (Restores Page.campaigns)) := by
  have hkeys : ∃ orders, condition.sorts.mapM SortOrder.ofKey = .ok orders := by
    refine Except.mapM_isOk_iff.mpr fun k hk => ?_
    obtain ⟨key, hkey⟩ := Option.isSome_iff_exists.mp (hsorts k hk)
    exact ⟨⟨key, k.descending⟩, by simp only [SortOrder.ofKey, SortKey.campaignKey, hkey]; rfl⟩
  obtain ⟨orders, horders⟩ := hkeys
  unfold Link.page
  refine gathers_only rfl rfl rfl fun countReply total hcount => .bind (.still ?_)
  rw [horders]
  have hnothing : RowsOnly [] [(.select (.campaignCount criteria), .ok countReply)] :=
    ⟨by rw [List.flatMap_cons, hcount.stored]; rfl, rfl, rfl⟩
  refine gathers_all rfl rfl fun reply rows hread => ?_
  refine (gathers_assemble (hnothing.received hread rfl rfl)).andThen fun ns' cs hcs => ?_
  exact .still fun hexpected => ⟨(hcs hexpected).1, (hcs hexpected).2.2⟩

theorem gathers_rows {α β : Type} {s : Selection} {cs : Columns β} {values : β → List StoredValue}
    {f : β → Except Outage α} (hlayout : s.layout = ⟨cs, values⟩) (hs : s.isSingle = false)
    (hcampaigns : ∀ reply, s.campaignRows reply = []) (h : ∀ b, Checks (values b) (f b)) :
    Gathers (Script.link.all s cs >>= fun rows => readable (rows.mapM f)) []
      (Conclusive (Restores fun _ => [])) := by
  refine gathers_all hlayout hs fun reply rows hread => gathers_readable ?_
  refine .of_checks (.mapM h) (fun v => ?_) fun _ _ => .none ?_
  · rw [List.flatMap_cons, hread.stored, List.flatMap_nil, List.append_nil]
  · rw [List.flatMap_cons, List.flatMap_nil, List.append_nil]
    exact hcampaigns reply

theorem gathers_assignee (campaign : CampaignId) (blogger : BloggerId) (lock : Bool) :
    Gathers (Script.link.assignee campaign blogger lock) [] (Conclusive (Restores fun _ => [])) := by
  have hneeds : (Selection.assignee campaign blogger lock).needsRow = true := rfl
  unfold Link.assignee
  refine gathers_first rfl rfl (fun reply hrows => .still (conclusive_of_empty hneeds hrows))
    fun reply row hread => gathers_readable ?_
  refine .of_checks row.checks (fun v => ?_) fun _ _ => .none rfl
  rw [List.flatMap_cons, hread.stored, List.flatMap_cons, List.flatMap_nil, List.flatMap_nil,
    List.append_nil, List.append_nil]

theorem gathers_latestExamination (campaign : CampaignId) (assignee : AssigneeId)
    (kind : EntryKind) (lock : Bool) :
    Gathers (Script.link.latestExamination campaign assignee kind lock) []
      (Conclusive (Restores fun _ => [])) := by
  have hneeds : (Selection.latestExamination campaign assignee kind lock).needsRow = true := rfl
  unfold Link.latestExamination
  refine gathers_first rfl rfl (fun reply hrows => .still (conclusive_of_empty hneeds hrows))
    fun reply row hread => ?_
  refine gathers_only rfl rfl rfl fun countReply count hcount => gathers_readable ?_
  refine .of_checks (row.checks count) (fun v => ?_) fun _ _ => .none rfl
  simp only [List.flatMap_cons, List.flatMap_nil, List.append_nil, hread.stored, hcount.stored,
    List.mem_append, or_comm]

theorem gathers_latestExaminations (campaign : CampaignId) (kind : EntryKind) :
    Gathers (Script.link.latestExaminations campaign kind) []
      (Conclusive (Restores fun _ => [])) := by
  have hrows := gathers_rows (s := .latestExaminations campaign kind)
    (f := fun r => r.1.examination r.2) rfl rfl (fun _ => rfl) fun r => r.1.checks r.2
  unfold Link.latestExaminations
  rw [← bind_assoc]
  exact hrows.andThen fun ns' _ h => .still h

theorem gathers_questionnaire (campaign : CampaignId) (lock : Bool) :
    Gathers (Script.link.questionnaire? campaign lock) [] (Conclusive (Restores fun _ => [])) := by
  unfold Link.questionnaire?
  refine gathers_first rfl rfl (fun reply hrows => .still fun _ => ?_) fun reply description hread => ?_
  · refine ⟨fun v hv => ?_, .none rfl⟩
    have hnothing : Note.stored (.select (.description campaign lock), .ok reply) = [] := by
      change ((Selection.description campaign lock).taken reply).flatMap _ = []
      rw [Selection.taken, hrows]
      rfl
    rw [List.flatMap_cons, hnothing] at hv
    cases hv
  · refine gathers_all rfl rfl fun questionReply rows hquestions => ?_
    have hconclusive : Conclusive (Restores fun _ : List Question => [])
        [(.select (.questions campaign), .ok questionReply),
          (.select (.description campaign lock), .ok reply)]
        ((rows.mapM QuestionRow.question).mapError .infrastructure) := by
      refine .of_checks (.mapM QuestionRow.checks) (fun v => ?_) fun _ _ => .none rfl
      simp only [List.flatMap_cons, List.flatMap_nil, List.append_nil, hread.stored,
        hquestions.stored]
    exact (gathers_readable hconclusive).andThen fun _ _ h => .still h

/-- Rows without anything to decode. -/
theorem gathers_plain {α : Type} {s : Selection} {cs : Columns α}
    (hlayout : s.layout = ⟨cs, fun _ => []⟩) (hs : s.isSingle = false)
    (hcampaigns : ∀ reply, s.campaignRows reply = []) :
    Gathers (Script.link.all s cs) [] (Conclusive (Restores fun _ => [])) := by
  have hrows := gathers_rows hlayout hs hcampaigns fun a => .ok a
  have hpure : (fun as : List α => (readable (as.mapM fun a => .ok a) : Exchange Script (List α))) =
      pure := by
    funext as
    rw [Except.mapM_eq_map fun _ _ => rfl, List.map_id']
    rfl
  rwa [hpure, bind_pure] at hrows

end Reads

/-! ## Every call that reads -/

theorem gathers_read {c : Call} (hread : c.isRead = true) (hsorts : c.Sorts) :
    Gathers (Script.link.answer c) [] (Conclusive (Restores c.campaigns)) := by
  cases c with
  | getCampaign id lock => exact gathers_campaign id lock
  | campaignsAmong ids includeClosed => exact gathers_campaignsAmong ids includeClosed
  | listCampaigns condition => exact gathers_page {} hsorts
  | searchCampaigns criteria condition => exact gathers_page criteria hsorts
  | campaignsEnding first last => exact gathers_plain rfl rfl fun _ => rfl
  | getAssignee campaign blogger lock => exact gathers_assignee campaign blogger lock
  | listAssignees campaign stage lock
  | assigneesAmong campaign bloggers stage lock
  | assigneesUnderExamination
  | participations blogger => exact gathers_rows rfl rfl (fun _ => rfl) AssigneeRow.checks
  | countStages campaign => exact gathers_rows rfl rfl (fun _ => rfl) StageCountRow.checks
  | latestExamination campaign assignee kind lock =>
    exact gathers_latestExamination campaign assignee kind lock
  | latestExaminations campaign kind => exact gathers_latestExaminations campaign kind
  | findQuestionnaire campaign lock => exact gathers_questionnaire campaign lock
  | listAnswers campaign authors => exact gathers_plain rfl rfl fun _ => rfl
  | _ => cases hread

/-- What a call that reads makes of what it received: it returns exactly if all stored values decode,
a fault names one that does not, and campaigns are those of the rows with their own schedules. -/
structure Faithful (c : Call) (received : List Note) (r : Except Fault c.Reply) : Prop where
  returns_iff : (∃ reply, r = .ok reply) ↔ ∀ v ∈ received.flatMap Note.stored, v.Decodes
  fault : ∀ f, r = .error f →
    ∃ v ∈ received.flatMap Note.stored, ¬ v.Decodes ∧ f = .infrastructure v.outage
  campaigns : ∀ reply, r = .ok reply → Restores c.campaigns received reply

/-- However the database answers a call that reads: if the columns of the rows that are looked at have
their types, with a row where one is needed, then the call is faithful to what it received. -/
theorem reads_decode {c : Call} (hread : c.isRead = true) (hsorts : c.Sorts) (s : Script) :
    ∃ received : List Note, (Script.link.answer c s).2.notes = received ++ s.notes ∧
      ((∀ n ∈ received, n.Expected) → Faithful c received (Script.link.answer c s).1) := by
  obtain ⟨received, hnotes, h⟩ := gathers_read hread hsorts s
  rw [List.append_nil] at h
  refine ⟨received, hnotes, fun hexpected => ?_⟩
  have hall := h hexpected
  cases hr : (Script.link.answer c s).1 with
  | ok reply =>
    rw [hr] at hall
    exact ⟨⟨fun _ => hall.1, fun _ => ⟨reply, rfl⟩⟩, nofun, fun _ heq => Except.ok.inj heq ▸ hall.2⟩
  | error f =>
    rw [hr] at hall
    obtain ⟨v, hv, hbad, hf⟩ := hall
    refine ⟨⟨nofun, fun hdecode => absurd (hdecode v hv) hbad⟩, fun g hg => ?_, nofun⟩
    cases hg
    exact ⟨v, hv, hbad, hf⟩

section Mixed

/-- A schedule of a kind that is given by its code. -/
def scheduleRow (id campaign : String) (kind : Int) : Row :=
  [.string id, .string campaign, .int kind, .null, .null]

/-- Two campaigns, and three schedules of theirs in no order. -/
def mixedScript : Script :=
  { replies := [{ rows := some [lotteryRow, lotteryRow.set 0 (.string "other")] },
      { rows := some [scheduleRow "a" "other" 1, scheduleRow "b" "campaign" 1,
        scheduleRow "c" "other" 2] }] }

def mixedCall : Call := .campaignsAmong [⟨"campaign"⟩, ⟨"other"⟩] true

def mixedRun : Except Fault (List Campaign) × Script := Script.link.answer mixedCall mixedScript

theorem reads_decode_of_mixedScript :
    mixedCall.isRead = true ∧ mixedCall.Sorts ∧ (∀ n : Note, n ∈ mixedRun.2.notes → n.Expected) ∧
    Faithful mixedCall mixedRun.2.notes mixedRun.1 ∧
    mixedRun.1.map (fun cs => cs.map fun c => (c.id.text, c.schedules.map fun s => s.id.text)) =
      .ok [("campaign", ["b"]), ("other", ["a", "c"])] := by
  have hexpected : ∀ n : Note, n ∈ mixedRun.2.notes → n.Expected := by decide
  obtain ⟨received, hnotes, hall⟩ := reads_decode (c := mixedCall) rfl trivial mixedScript
  have hreceived : mixedRun.2.notes = received := hnotes.trans (List.append_nil _)
  refine ⟨rfl, trivial, hexpected, ?_, rfl⟩
  rw [hreceived] at hexpected ⊢
  exact hall hexpected

end Mixed

/-- A row that is not looked at may have a code that is unknown; a page fails for a key to sort by that
there is not, and without a count. -/
theorem reads_without_decoding :
    (∀ row ∈ [invitedRow, invitedRow.set 4 (.int 99)],
      (AssigneeRow.columns.read row).isOk = true) ∧
    ¬ (StoredValue.code "assignee.stage" .stage 99).Decodes ∧
    (Script.link.answer (.getAssignee ⟨"campaign"⟩ ⟨"blogger"⟩ false)
      { replies := [{ rows := some [invitedRow, invitedRow.set 4 (.int 99)] }] }).1.isOk = true ∧
    (Script.link.answer (.listCampaigns { offset := 0, limit := 10, sorts := [⟨"item_id", false⟩] })
      { replies := [{ rows := some [[.int 3]] }, {}, {}] }).1.map Page.total =
        .error (.validation (.sortKeyUnknown "item_id")) ∧
    (Script.link.answer (.listCampaigns { offset := 0, limit := 10, sorts := [] })
      { replies := [{}, {}, {}] }).1.map Page.total = .error (.infrastructure .noRow) :=
  ⟨by decide, by decide, rfl, rfl, rfl⟩

end Sponsorship.Sql
