import Sponsorship.Command
import Sponsorship.Proofs.Transcript
import Sponsorship.Proofs.Transition

/-!
# Sponsorship.Proofs.Locking

Rows are locked before they are changed.

* `Selection.Locks s t`: the text of a selection asks for locks on the rows of table `t` that it
  returns, and for their identifiers first.
* `Held ns t id`: in the unit of work that is open, such a selection returned the row `id`.
* `LockedFirst g`: a statement changes rows that are held only. Where the moves of a command follow
  the flags of a campaign (`Steering`), what it writes of an assignee follows flags that are held.
* `Guarded g t ns`: the task sends such statements only. One lemma for each way a command reads or
  writes, and one for each command.
* `lock_before_write`: every command but a deletion, whatever is answered.
-/

namespace Sponsorship

/-- A campaign whose flags decide how assignees move. -/
structure Steering where
  campaign : CampaignId
  move : WorkflowFlags → Assignee → Option Move

/-- How the moves of a command follow the flags of its campaign, if they do. -/
def Command.steering? : Command → Option Steering
  | .answerInvitation id _ true _ => some ⟨id, fun flags _ => some (.accept flags)⟩
  | .applyLottery id results =>
    some ⟨id, fun flags a => (results.get? a.blogger).map (Store.draw flags)⟩
  | .finishShipment id =>
    some ⟨id, fun flags _ => some (.finishShipment flags.needsPreliminaryReview)⟩
  | .submit id _ .entry _ => some ⟨id, fun flags _ => some (.submitEntry flags.needsAfterReview)⟩
  | _ => none

namespace Sql

open Time

/-! ## Selections that lock -/

/-- The clause that locks what is selected of a table. Assignees are selected with their campaigns,
which it leaves out. -/
def lockClause : Table → String
  | .assignee => " FOR UPDATE OF a"
  | _ => " FOR UPDATE"

def Selection.Locks (s : Selection) (t : Table) : Prop :=
  ∃ columns conditions, s.text = "SELECT " ++ t.qualifier ++ "id, " ++ columns ++
    " FROM " ++ t.name ++ conditions ++ lockClause t

namespace Columns

variable {α β : Type}

/-- The first of several columns is the identifier in a table. -/
def LedBy (cs : Columns α) (t : Table) : Prop :=
  ∃ c rest, cs.columns = .stored t "id" none :: c :: rest

theorem LedBy.text {cs : Columns α} {t : Table} (h : cs.LedBy t) :
    ∃ tail, cs.text = t.qualifier ++ "id, " ++ tail := by
  obtain ⟨c, rest, hcs⟩ := h
  have hid : ("id, " : String) = "id" ++ ", " := rfl
  refine ⟨", ".intercalate ((c :: rest).map Column.text), ?_⟩
  rw [Columns.text, hcs, List.map_cons, List.map_cons, String.intercalate_cons_cons, hid]
  simp only [Column.text, String.append_assoc]

/-- `P` holds of every row and what is read from it. -/
def Reads (cs : Columns α) (P : Row → α → Prop) : Prop :=
  ∀ row a rest, cs.take row = .ok (a, rest) → P row a

theorem Reads.read {cs : Columns α} {P : Row → α → Prop} (h : cs.Reads P) {row : Row} {a : α}
    (ha : cs.read row = .ok a) : P row a := by
  unfold Columns.read at ha
  rcases htake : cs.take row with e | ⟨b, rest⟩
  · rw [htake] at ha; cases ha
  · rw [htake] at ha; cases ha
    exact h row b rest htake

theorem Reads.map {cs : Columns α} {f : α → β} {P : Row → β → Prop}
    (h : cs.Reads fun row a => P row (f a)) : (f <$> cs).Reads P := by
  intro row b rest hb
  have hmap : (cs.take row).map (fun p => (f p.1, p.2)) = .ok (b, rest) := hb
  rcases htake : cs.take row with e | ⟨a, rest'⟩
  · rw [htake] at hmap; cases hmap
  · rw [htake] at hmap; cases hmap
    exact h row a rest' htake

/-- Of columns that are combined the first decide. -/
theorem Reads.seq {cs : Columns (α → β)} {cs' : Columns α} {P : Row → β → Prop}
    (h : cs.Reads fun row f => ∀ a, P row (f a)) : (cs <*> cs').Reads P := by
  intro row b rest hb
  obtain ⟨⟨f, row'⟩, hf, hb⟩ := Except.bind_ok.mp hb
  obtain ⟨⟨a, rest'⟩, _, hb⟩ := Except.bind_ok.mp hb
  cases hb
  exact h row f row' hf a

/-- What is read first is the first value of the row. -/
theorem reads_key {kind : Named} {t : Table} {name : String} {f : Id kind → β}
    {P : Row → β → Prop} (h : ∀ row i, row.head? = some (.string i.text) → P row (f i)) :
    (f <$> Columns.of t name Cell.id).Reads P := by
  refine .map fun row i rest htake => h row i ?_
  cases row with
  | nil => cases htake
  | cons v row =>
    cases v with
    | string text => cases htake; rfl
    | _ => cases htake

end Columns

namespace CampaignRow

theorem columns_ledBy : columns.LedBy .campaign := ⟨_, _, rfl⟩

theorem reads_id : columns.Reads fun row r => row.head? = some (.string r.id.text) := by
  unfold columns
  repeat apply Columns.Reads.seq
  exact Columns.reads_key fun row i h => by intros; exact h

end CampaignRow

namespace AssigneeRow

theorem columns_ledBy : columns.LedBy .assignee := ⟨_, _, rfl⟩

theorem reads_id : columns.Reads fun row r => row.head? = some (.string r.id.text) := by
  unfold columns
  repeat apply Columns.Reads.seq
  exact Columns.reads_key fun row i h => by intros; exact h

end AssigneeRow

namespace ExaminationRow

theorem columns_ledBy : columns.LedBy .examination := ⟨_, _, rfl⟩

theorem reads_id : columns.Reads fun row r => row.head? = some (.string r.id.text) := by
  unfold columns
  repeat apply Columns.Reads.seq
  exact Columns.reads_key fun row i h => by intros; exact h

end ExaminationRow

namespace Selection

theorem Locks.of_ledBy {α : Type} {s : Selection} {t : Table} {cs : Columns α} (h : cs.LedBy t)
    (conditions : String)
    (htext : s.text = "SELECT " ++ cs.text ++ " FROM " ++ t.name ++ conditions ++ lockClause t) :
    s.Locks t := by
  obtain ⟨tail, htail⟩ := h.text
  refine ⟨tail, conditions, ?_⟩
  rw [htext, htail]
  simp only [String.append_assoc]

theorem Locks.campaign (id : CampaignId) : (campaign id true).Locks .campaign := by
  have htext : (Selection.campaign id true).text =
    campaignText ++ " AND o.id = $1" ++ " FOR UPDATE" := rfl
  have hfrom : (" FROM offer_item o JOIN drafted_item_info d ON d.offer_item_id = o.id" : String) =
    " FROM " ++ ("offer_item" ++ " o JOIN drafted_item_info d ON d.offer_item_id = o.id") := rfl
  refine .of_ledBy CampaignRow.columns_ledBy
    (" o JOIN drafted_item_info d ON d.offer_item_id = o.id" ++ " WHERE o.deleted_at IS NULL" ++
      " AND o.id = $1") ?_
  rw [htext, campaignText, hfrom]
  simp only [String.append_assoc, lockClause, Table.name]

/-- The text after the columns of assignees, up to the conditions of a selection. -/
theorem assigneeText_eq : assigneeText = "SELECT " ++ AssigneeRow.columns.text ++ " FROM " ++
    "assignee" ++ " a JOIN offer_item o ON o.id = a.offer_item_id WHERE o.deleted_at IS NULL" := by
  have hfrom :
    (" FROM assignee a JOIN offer_item o ON o.id = a.offer_item_id WHERE o.deleted_at IS NULL"
      : String) = " FROM " ++ ("assignee" ++
        " a JOIN offer_item o ON o.id = a.offer_item_id WHERE o.deleted_at IS NULL") := rfl
  rw [assigneeText, hfrom]
  simp only [String.append_assoc]

theorem Locks.of_assigneeText {s : Selection} (conditions : String)
    (htext : s.text = assigneeText ++ conditions ++ " FOR UPDATE OF a") : s.Locks .assignee := by
  refine .of_ledBy AssigneeRow.columns_ledBy
    (" a JOIN offer_item o ON o.id = a.offer_item_id WHERE o.deleted_at IS NULL" ++ conditions) ?_
  rw [htext, assigneeText_eq]
  simp only [String.append_assoc, lockClause, Table.name]

theorem Locks.assignee (id : CampaignId) (b : BloggerId) : (assignee id b true).Locks .assignee :=
  .of_assigneeText " AND a.offer_item_id = $1 AND a.ameba_id = $2" rfl

theorem Locks.assignees (id : CampaignId) (stage : Option Stage) :
    (assignees id stage true).Locks .assignee := by
  refine .of_assigneeText (" AND a.offer_item_id = $1 AND ($2::SMALLINT IS NULL OR a.stage = $2)" ++
    " ORDER BY a.created_at, a.id") ?_
  rw [← String.append_assoc]
  rfl

theorem Locks.assigneesAmong (id : CampaignId) (bs : List BloggerId) (stage : Option Stage) :
    (assigneesAmong id bs stage true).Locks .assignee := by
  refine .of_assigneeText (" AND a.offer_item_id = $1 AND a.ameba_id = ANY($2)" ++
    " AND ($3::SMALLINT IS NULL OR a.stage = $3) ORDER BY a.created_at, a.id") ?_
  rw [← String.append_assoc]
  rfl

theorem Locks.latestExamination (id : CampaignId) (a : AssigneeId) (kind : EntryKind) :
    (latestExamination id a kind true).Locks .examination := by
  have htext : (Selection.latestExamination id a kind true).text =
    "SELECT " ++ ExaminationRow.columns.text ++ submissionText ++
      " ORDER BY created_at DESC, seq DESC LIMIT 1" ++ " FOR UPDATE" := rfl
  have hfrom : submissionText = " FROM " ++ ("examination" ++
    " WHERE offer_item_id = $1 AND assignee_id = $2 AND entry_type = $3") := rfl
  refine .of_ledBy ExaminationRow.columns_ledBy
    (" WHERE offer_item_id = $1 AND assignee_id = $2 AND entry_type = $3" ++
      " ORDER BY created_at DESC, seq DESC LIMIT 1") ?_
  rw [htext, hfrom]
  simp only [String.append_assoc, lockClause, Table.name]

end Selection

/-! ## Rows that are held -/

/-- In the unit of work that is open a locking selection returned the row with an identifier. -/
def Held (ns : List Note) (t : Table) (id : String) : Prop :=
  ∃ s row, s.Locks t ∧ Returned ns s row ∧ row.head? = some (.string id)

def CampaignRead (ns : List Note) (s : Selection) (c : Campaign) : Prop :=
  ∃ r schedules, ReadBy ns s CampaignRow.columns r ∧ r.campaign schedules = .ok c

def AssigneeRead (ns : List Note) (s : Selection) (a : Assignee) : Prop :=
  ∃ r, ReadBy ns s AssigneeRow.columns r ∧ r.assignee = .ok a

def ExaminationRead (ns : List Note) (s : Selection) (e : Examination) : Prop :=
  ∃ r count, ReadBy ns s ExaminationRow.columns r ∧ r.examination count = .ok e

/-- The flags of a campaign that was read under a lock ask for a move. -/
def Asked (g : Steering) (ns : List Note) (a : Assignee) (m : Move) : Prop :=
  ∃ r, ReadBy ns (.campaign g.campaign true) CampaignRow.columns r ∧ g.move r.flags a = some m

/-- What is written of an assignee is what a move leaves of one that was read under a lock. The move
is the one that flags read under a lock ask for. -/
def Steered (g : Steering) (ns : List Note) (id : String) (fields : List Field) : Prop :=
  ∃ s a m moved, s.Locks .assignee ∧ AssigneeRead ns s a ∧ Asked g ns a m ∧
    a.move m = .ok moved ∧ id = moved.id.text ∧ fields = progress moved

/-- What a statement changes of rows that are there was locked before. -/
def Covered (ns : List Note) : Statement → Prop
  | .update t id _ => Held ns t id
  | .delete .assignee column id => column = "id" ∧ Held ns .assignee id
  | .retire id => Held ns .campaign id.text
  | _ => True

/-- What may be sent when rows are locked before they are changed. -/
structure LockedFirst (g : Option Steering) (ns : List Note) (st : Statement) : Prop where
  covered : Covered ns st
  steered : ∀ x id fields, g = some x → st = .update .assignee id fields → Steered x ns id fields

section Held

variable {fit : Fitness} {ns ns' : List Note} {s : Selection}

theorem CampaignRow.campaign_ok {r : CampaignRow} {schedules : List Schedule} {c : Campaign}
    (h : r.campaign schedules = .ok c) : c.id = r.id ∧ c.flags = r.flags := by
  obtain ⟨_, _, h⟩ := Except.bind_ok.mp h
  obtain ⟨_, _, h⟩ := Except.bind_ok.mp h
  obtain ⟨_, _, h⟩ := Except.bind_ok.mp h
  cases h
  exact ⟨rfl, rfl⟩

theorem CampaignRead.held {c : Campaign} (h : CampaignRead ns s c) (hs : s.Locks .campaign) :
    Held ns .campaign c.id.text := by
  obtain ⟨r, schedules, ⟨row, hrow, hr⟩, hc⟩ := h
  rw [(CampaignRow.campaign_ok hc).1]
  exact ⟨s, row, hs, hrow, CampaignRow.reads_id.read hr⟩

theorem CampaignRead.later {c : Campaign} (h : CampaignRead ns s c)
    (hs : Sent (Inside fit) ns ns') : CampaignRead ns' s c := by
  obtain ⟨r, schedules, hr, hc⟩ := h
  exact ⟨r, schedules, hr.later hs, hc⟩

theorem CampaignRead.asked {g : Steering} {c : Campaign} {a : Assignee} {m : Move}
    (h : CampaignRead ns (.campaign g.campaign true) c) (hm : g.move c.flags a = some m) :
    Asked g ns a m := by
  obtain ⟨r, schedules, hr, hc⟩ := h
  exact ⟨r, hr, (CampaignRow.campaign_ok hc).2 ▸ hm⟩

theorem AssigneeRead.held {a : Assignee} (h : AssigneeRead ns s a) (hs : s.Locks .assignee) :
    Held ns .assignee a.id.text := by
  obtain ⟨r, ⟨row, hrow, hr⟩, ha⟩ := h
  obtain ⟨_, _, ha⟩ := Except.bind_ok.mp ha
  cases ha
  exact ⟨s, row, hs, hrow, AssigneeRow.reads_id.read hr⟩

theorem AssigneeRead.later {a : Assignee} (h : AssigneeRead ns s a)
    (hs : Sent (Inside fit) ns ns') : AssigneeRead ns' s a := by
  obtain ⟨r, hr, ha⟩ := h
  exact ⟨r, hr.later hs, ha⟩

theorem ExaminationRead.held {e : Examination} (h : ExaminationRead ns s e)
    (hs : s.Locks .examination) : Held ns .examination e.id.text := by
  obtain ⟨r, count, ⟨row, hrow, hr⟩, he⟩ := h
  obtain ⟨_, _, he⟩ := Except.bind_ok.mp he
  obtain ⟨_, _, he⟩ := Except.bind_ok.mp he
  cases he
  exact ⟨s, row, hs, hrow, ExaminationRow.reads_id.read hr⟩

end Held

/-! ## Reading and writing -/

/-- Statements that change nothing that has to be locked. -/
def Statement.isFree : Statement → Bool
  | .update _ _ _ | .delete .assignee _ _ | .retire _ => false
  | _ => true

section Calls

variable {g : Option Steering} {ns : List Note} {α : Type}

theorem LockedFirst.free {st : Statement} (h : st.isFree = true) : LockedFirst g ns st := by
  constructor
  · cases st with
    | delete t column id =>
      cases t with
      | assignee => cases h
      | _ => trivial
    | update => cases h
    | retire => cases h
    | _ => trivial
  · rintro _ id fields - rfl
    cases h

theorem Inside.read {s : Selection} : Inside (LockedFirst g) ns (.select s) :=
  ⟨rfl, .free rfl⟩

/-- A task that changes only what was locked before, in the unit of work that is open. -/
abbrev Guarded (g : Option Steering) (t : Task Script α) (ns : List Note) : Prop :=
  Fits (Inside (LockedFirst g)) t ns

theorem reads_assemble {rows : List CampaignRow} :
    Sends Script.notes (Inside (LockedFirst g)) (Script.link.assemble rows) ns
      fun cs _ => ∃ schedules, assembled schedules rows = .ok cs := by
  refine .bind ((sends_all .read).imp fun _ ns₁ _ _ => ?_)
  refine .bind (sends_readable.imp fun schedules ns₂ _ _ => ?_)
  exact sends_readable.imp fun cs _ _ ⟨_, hcs⟩ => ⟨schedules, hcs⟩

theorem reads_getCampaign {id : CampaignId} {lock : Bool} :
    Sends transcript (Inside (LockedFirst g)) (Script.link.store.call (.getCampaign id lock)) ns
      fun c ns' => IsOpen ns → CampaignRead ns' (.campaign id lock) c := by
  refine sends_call (.bind ((sends_first .read).imp fun found ns₁ _ hfound => ?_))
  cases found with
  | none => exact .throw
  | some r =>
    refine .bind (reads_assemble.imp fun cs ns₂ h₂ ⟨schedules, hcs⟩ => ?_)
    cases cs with
    | nil => exact .throw
    | cons c rest =>
      -- the schedules are selected after the row, which is in the same unit still
      refine .pure fun hopen => ?_
      obtain ⟨c', hc', hcs⟩ := Except.bind_ok.mp hcs
      obtain ⟨_, _, hcs⟩ := Except.bind_ok.mp hcs
      cases hcs
      exact ⟨r, _, (hfound hopen r rfl).later h₂, hc'⟩

theorem reads_assignees {s : Selection} :
    Sends Script.notes (Inside (LockedFirst g)) (Script.link.assignees s) ns
      fun as ns' => IsOpen ns → ∀ a ∈ as, AssigneeRead ns' s a := by
  refine .bind ((sends_all .read).imp fun rs ns₁ _ hrs => ?_)
  refine sends_readable.imp fun as ns' _ ⟨hns, has⟩ hopen a ha => ?_
  subst hns
  obtain ⟨r, hr, har⟩ := exists_left_of_forall₂ (Except.mapM_forall₂ has) ha
  exact ⟨r, hrs hopen r hr, har⟩

theorem reads_listAssignees {id : CampaignId} {stage : Option Stage} {lock : Bool} :
    Sends transcript (Inside (LockedFirst g))
      (Script.link.store.call (.listAssignees id stage lock)) ns
      fun as ns' => IsOpen ns → ∀ a ∈ as, AssigneeRead ns' (.assignees id stage lock) a :=
  sends_call reads_assignees

theorem reads_assigneesAmong {id : CampaignId} {bs : List BloggerId} {stage : Option Stage}
    {lock : Bool} :
    Sends transcript (Inside (LockedFirst g))
      (Script.link.store.call (.assigneesAmong id bs stage lock)) ns
      fun as ns' => IsOpen ns → ∀ a ∈ as, AssigneeRead ns' (.assigneesAmong id bs stage lock) a :=
  sends_call reads_assignees

theorem reads_getAssignee {id : CampaignId} {b : BloggerId} {lock : Bool} :
    Sends transcript (Inside (LockedFirst g)) (Script.link.store.call (.getAssignee id b lock)) ns
      fun a ns' => IsOpen ns → AssigneeRead ns' (.assignee id b lock) a := by
  refine sends_call (.bind ((sends_first .read).imp fun found ns₁ _ hfound => ?_))
  cases found with
  | none => exact .throw
  | some r =>
    refine sends_readable.imp fun a ns' _ ⟨hns, ha⟩ hopen => ?_
    subst hns
    exact ⟨r, hfound hopen r rfl, ha⟩

theorem reads_latestExamination {id : CampaignId} {a : AssigneeId} {kind : EntryKind}
    {lock : Bool} :
    Sends transcript (Inside (LockedFirst g))
      (Script.link.store.call (.latestExamination id a kind lock)) ns
      fun e ns' => IsOpen ns → ExaminationRead ns' (.latestExamination id a kind lock) e := by
  refine sends_call (.bind ((sends_first .read).imp fun found ns₁ _ hfound => ?_))
  cases found with
  | none => exact .throw
  | some r =>
    refine .bind ((sends_only .read).imp fun count ns₂ h₂ _ => ?_)
    refine sends_readable.imp fun e ns' _ ⟨hns, he⟩ hopen => ?_
    subst hns
    exact ⟨r, count, (hfound hopen r rfl).later h₂, he⟩

theorem guarded_findQuestionnaire {id : CampaignId} {lock : Bool} :
    Guarded g (Script.link.store.call (.findQuestionnaire id lock)) ns := by
  refine sends_call (.bind ((sends_first .read).imp fun found ns₁ _ _ => ?_))
  cases found with
  | none => exact .pure trivial
  | some description =>
    refine .bind ((sends_all .read).imp fun rows ns₂ _ _ => ?_)
    exact sends_readable.thenPure

/-- Statements that change nothing that has to be locked, one after the other. -/
theorem guarded_free {sts : List Statement}
    (h : ∀ st ∈ sts, st.isFree = true ∧ st.isBracket = false) :
    Sends Script.notes (Inside (LockedFirst g)) (Script.link.writeAll sts) ns fun _ _ => True :=
  sends_writeAll fun st hst _ _ => ⟨(h st hst).2, .free (h st hst).1⟩

theorem free_partWrites (c : Campaign) :
    ∀ st ∈ partWrites c, st.isFree = true ∧ st.isBracket = false := by
  intro st hst
  rcases List.mem_append.mp hst with hst | hst
  · simp only [List.mem_cons, List.not_mem_nil, or_false] at hst
    rcases hst with rfl | rfl <;> exact ⟨rfl, rfl⟩
  · obtain ⟨_, _, rfl⟩ := List.mem_map.mp hst
    exact ⟨rfl, rfl⟩

theorem free_questionnaireWrites (q : Questionnaire) :
    ∀ st ∈ questionnaireWrites q, st.isFree = true ∧ st.isBracket = false := by
  intro st hst
  rcases List.mem_append.mp hst with hst | hst
  · simp only [List.mem_cons, List.not_mem_nil, or_false] at hst
    rcases hst with rfl | rfl <;> exact ⟨rfl, rfl⟩
  · obtain ⟨_, _, rfl⟩ := List.mem_map.mp hst
    exact ⟨rfl, rfl⟩

theorem guarded_insert {t : Table} {fields : List Field} {keys : List String} :
    Sends Script.notes (Inside (LockedFirst g)) (Script.link.write (.insert t fields keys)) ns
      fun _ _ => True :=
  sends_write ⟨rfl, .free rfl⟩

theorem guarded_createCampaign {c : Campaign} :
    Guarded g (Script.link.store.call (.createCampaign c)) ns :=
  sends_call (.bind (guarded_insert.imp fun _ _ _ _ => guarded_free (free_partWrites c)))

theorem guarded_saveQuestionnaire {q : Questionnaire} :
    Guarded g (Script.link.store.call (.saveQuestionnaire q)) ns :=
  sends_call (guarded_free (free_questionnaireWrites q))

theorem guarded_saveAnswers {answers : List Answer} :
    Guarded g (Script.link.store.call (.saveAnswers answers)) ns := by
  refine sends_call (guarded_free fun st hst => ?_)
  obtain ⟨a, _, rfl⟩ := List.mem_map.mp hst
  exact ⟨rfl, rfl⟩

theorem guarded_updateCampaign {s : Selection} {c c' : Campaign} (hc : CampaignRead ns s c)
    (hs : s.Locks .campaign) (hid : c'.id = c.id) :
    Guarded g (Script.link.store.call (.updateCampaign c')) ns := by
  refine sends_call (.bind ((sends_change ⟨rfl, hid ▸ hc.held hs, ?_⟩).imp fun _ ns₁ _ _ =>
    guarded_free (free_partWrites c')))
  intro _ _ _ _ h
  cases h

theorem guarded_updateExamination {s : Selection} {e e' : Examination}
    (he : ExaminationRead ns s e) (hs : s.Locks .examination) (hid : e'.id = e.id) :
    Guarded g (Script.link.store.call (.updateExamination e')) ns := by
  refine sends_call (sends_change ⟨rfl, hid ▸ he.held hs, ?_⟩)
  intro _ _ _ _ h
  cases h

theorem guarded_updateAssignee {s : Selection} {a a' : Assignee} (ha : AssigneeRead ns s a)
    (hs : s.Locks .assignee) (hid : a'.id = a.id)
    (hg : ∀ x, g = some x → Steered x ns a'.id.text (progress a')) :
    Guarded g (Script.link.store.call (.updateAssignee a')) ns := by
  refine sends_call (sends_change ⟨rfl, hid ▸ ha.held hs, ?_⟩)
  intro x _ _ hx h
  cases h
  exact hg x hx

/-- Where nothing is steered, every change of an assignee that was read under a lock may be
written. -/
theorem guarded_writeBack {s : Selection} {a a' : Assignee} (ha : AssigneeRead ns s a)
    (hs : s.Locks .assignee) (hid : a'.id = a.id) :
    Guarded none (Script.link.store.call (.updateAssignee a')) ns :=
  guarded_updateAssignee ha hs hid nofun

theorem guarded_deleteAssignee {s : Selection} {a : Assignee} (ha : AssigneeRead ns s a)
    (hs : s.Locks .assignee) : Guarded g (Script.link.store.call (.deleteAssignee a.id)) ns := by
  refine sends_call (sends_writeAll fun st hst ns' h' => ?_)
  simp only [assigneeDeletions, List.mem_cons, List.not_mem_nil, or_false] at hst
  rcases hst with rfl | rfl | rfl
  · exact ⟨rfl, .free rfl⟩
  · exact ⟨rfl, .free rfl⟩
  · refine ⟨rfl, ⟨rfl, (ha.later h').held hs⟩, ?_⟩
    intro _ _ _ _ h
    cases h

/-- A moved assignee may be written if the flags of the campaign asked for the move. -/
theorem guarded_moved {s : Selection} {a moved : Assignee} {m : Move} (ha : AssigneeRead ns s a)
    (hs : s.Locks .assignee) (hmoved : a.move m = .ok moved)
    (hg : ∀ x, g = some x → Asked x ns a m) :
    Guarded g (Script.link.store.call (.updateAssignee moved)) ns := by
  have hid : moved.id = a.id := by
    obtain ⟨_, rfl⟩ := Assignee.move_ok.mp hmoved
    exact Assignee.after_id a m
  refine guarded_updateAssignee ha hs hid fun x hx => ?_
  exact ⟨s, a, m, moved, hs, ha, hg x hx, hmoved, rfl, rfl⟩

theorem guarded_advance {s : Selection} {a : Assignee} {m : Move} (ha : AssigneeRead ns s a)
    (hs : s.Locks .assignee) (hg : ∀ x, g = some x → Asked x ns a m) :
    Guarded g (Script.link.store.advance a m) ns := by
  refine .bind (sends_obey.imp fun moved ns₁ _ ⟨hns, hmoved⟩ => ?_)
  subst hns
  exact (guarded_moved ha hs hmoved hg).thenPure

end Calls

/-! ## The course of a campaign -/

section Course

variable {ns : List Note} (hopen : IsOpen ns)

include hopen

theorem guarded_invite (id : CampaignId) : Guarded none (Script.link.store.invite id) ns := by
  refine .bind (reads_getCampaign.imp fun _ ns₁ h₁ _ => ?_)
  refine .bind (reads_listAssignees.imp fun as ns₂ _ has => ?_)
  refine .tally fun a ha ns₃ h₃ => ?_
  have hread := (has (hopen.later h₁) a ha).later h₃
  exact guarded_advance hread (.assignees id _) nofun

theorem guarded_answerInvitation (id : CampaignId) (b : BloggerId) (accepted : Bool)
    (answers : Keyed QuestionId String) :
    Guarded (Command.answerInvitation id b accepted answers).steering?
      (Script.link.store.answerInvitation id b accepted answers) ns := by
  refine .bind (reads_getCampaign.imp fun c ns₁ h₁ hc => ?_)
  refine .bind (guarded_findQuestionnaire.imp fun q ns₂ h₂ _ => ?_)
  refine .bind (reads_getAssignee.imp fun a ns₃ h₃ ha => ?_)
  refine .bind (sends_obey.imp fun moved ns₄ _ ⟨hns, hmoved⟩ => ?_)
  subst hns
  have hanswers : Guarded (Command.answerInvitation id b accepted answers).steering?
      (Script.link.store.recordAnswers accepted q moved.id answers) ns₄ := by
    unfold Store.recordAnswers
    split
    · exact .bind (sends_obey.imp fun _ _ _ _ => guarded_saveAnswers)
    · exact .pure trivial
  refine .bind (hanswers.imp fun _ ns₅ h₅ _ => ?_)
  have hopen₂ := (hopen.later h₁).later h₂
  have hcampaign := (((hc hopen).later h₂).later h₃).later h₅
  refine (guarded_moved ((ha hopen₂).later h₅) (.assignee id b) hmoved fun x hx => ?_).thenPure
  cases accepted with
  | true => cases hx; exact hcampaign.asked rfl
  | false => cases hx

theorem guarded_decline (id : CampaignId) (b : BloggerId) (reason : String) :
    Guarded none (Script.link.store.decline id b reason) ns := by
  refine .bind (reads_getAssignee.imp fun a ns₁ _ ha => ?_)
  refine .bind (sends_obey.imp fun a' ns₂ _ ⟨hns, ha'⟩ => ?_)
  subst hns
  have hid : a'.id = a.id := by
    obtain ⟨_, _, rfl⟩ := Assignee.decline_ok.mp ha'
    rfl
  exact (guarded_writeBack (ha hopen) (.assignee id b) hid).thenPure

theorem guarded_applyLottery (id : CampaignId) (results : Keyed BloggerId LotteryResult) :
    Guarded (Command.applyLottery id results).steering?
      (Script.link.store.applyLottery id results) ns := by
  refine .bind (reads_getCampaign.imp fun c ns₁ h₁ hc => ?_)
  refine .bind (reads_listAssignees.imp fun as ns₂ h₂ has => ?_)
  refine .tally fun a ha ns₃ h₃ => ?_
  unfold Store.applyResult
  cases hr : results.get? a.blogger with
  | none => exact .pure trivial
  | some r =>
    have hread := (has (hopen.later h₁) a ha).later h₃
    refine guarded_advance hread (.assignees id _) fun x hx => ?_
    cases hx
    exact (((hc hopen).later h₂).later h₃).asked (congrArg (Option.map _) hr)

theorem guarded_finishShipment (id : CampaignId) :
    Guarded (Command.finishShipment id).steering? (Script.link.store.finishShipment id) ns := by
  refine .bind (reads_getCampaign.imp fun c ns₁ h₁ hc => ?_)
  refine .bind (reads_listAssignees.imp fun as ns₂ h₂ has => ?_)
  refine .tally fun a ha ns₃ h₃ => ?_
  have hread := (has (hopen.later h₁) a ha).later h₃
  refine guarded_advance hread (.assignees id _) fun x hx => ?_
  cases hx
  exact (((hc hopen).later h₂).later h₃).asked rfl

theorem guarded_completePayment (id : CampaignId) (bs : List BloggerId) :
    Guarded none (Script.link.store.completePayment id bs) ns := by
  refine .bind (reads_getCampaign.imp fun _ ns₁ h₁ _ => ?_)
  refine .bind (reads_assigneesAmong.imp fun as ns₂ _ has => ?_)
  have hmoves : Guarded none
      (tally (fun a => Script.link.store.advance a .completePayment) as) ns₂ := by
    refine .tally fun a ha ns₃ h₃ => ?_
    have hread := (has (hopen.later h₁) a ha).later h₃
    exact guarded_advance hread (.assigneesAmong id bs _) nofun
  exact hmoves.thenPure

theorem guarded_submit (now : Instant) (id : CampaignId) (b : BloggerId) (kind : EntryKind)
    (entry : Option EntryId) :
    Guarded (Command.submit id b kind entry).steering?
      (Script.link.store.submit now id b kind entry) ns := by
  refine .bind (reads_getAssignee.imp fun a ns₁ h₁ ha => ?_)
  refine .bind (reads_getCampaign.imp fun c ns₂ h₂ hc => ?_)
  refine .bind (sends_ofMinting.imp fun x ns₃ h₃ _ => ?_)
  refine .bind (sends_obey.imp fun e ns₄ h₄ _ => ?_)
  refine .bind (sends_obey.imp fun moved ns₅ h₅ ⟨_, hmoved⟩ => ?_)
  refine .bind ((sends_call guarded_insert).imp fun _ ns₆ h₆ _ => ?_)
  have hlater := ((h₃.trans h₄).trans h₅).trans h₆
  have hread := (ha hopen).later (h₂.trans hlater)
  refine (guarded_moved hread (.assignee id b) hmoved fun x hx => ?_).thenPure
  cases kind with
  | draft => cases hx
  | entry => cases hx; exact ((hc (hopen.later h₁)).later hlater).asked rfl

theorem guarded_applyVerdicts (id : CampaignId) (kind : EntryKind)
    (verdicts : Keyed BloggerId Verdict) :
    Guarded none (Script.link.store.applyVerdicts id kind verdicts) ns := by
  refine .bind (reads_listAssignees.imp fun as ns₁ h₁ has => ?_)
  refine .tally fun a ha ns₂ h₂ => ?_
  unfold Store.applyVerdict
  cases verdicts.get? a.blogger with
  | none => exact .pure trivial
  | some v =>
    refine .bind (reads_latestExamination.imp fun e ns₃ h₃ he => ?_)
    refine .bind (sends_obey.imp fun e' ns₄ _ ⟨hns, he'⟩ => ?_)
    subst hns
    refine .bind (sends_obey.imp fun a' ns₅ _ ⟨hns, ha'⟩ => ?_)
    subst hns
    have hid : e'.id = e.id := by
      obtain ⟨_, rfl⟩ := Examination.judge_ok.mp he'
      rfl
    have hexamination := he ((hopen.later h₁).later h₂)
    refine .bind ((guarded_updateExamination hexamination (.latestExamination id a.id kind)
      hid).imp fun _ ns₆ h₆ _ => ?_)
    have hread := ((has hopen a ha).later h₂).later (h₃.trans h₆)
    have hwrite : Guarded none (Script.link.store.call (.updateAssignee a')) ns₆ :=
      guarded_moved hread (.assignees id _) ha' nofun
    exact hwrite.thenPure

theorem guarded_complete (id : CampaignId) : Guarded none (Script.link.store.complete id) ns := by
  refine .bind (reads_getCampaign.imp fun c ns₁ h₁ hc => ?_)
  refine .bind (reads_listAssignees.imp fun as ns₂ h₂ has => ?_)
  have hfinish : Guarded none
      (eachOf (fun a => Script.link.store.call (.updateAssignee a.finish)) as) ns₂ :=
    .eachOf fun a ha ns₃ h₃ =>
      guarded_writeBack ((has (hopen.later h₁) a ha).later h₃) (.assignees id none) rfl
  refine .bind (hfinish.imp fun _ ns₃ h₃ _ => ?_)
  refine .bind (sends_obey.imp fun c' ns₄ _ ⟨hns, hc'⟩ => ?_)
  subst hns
  have hid : c'.id = c.id := by
    obtain ⟨_, rfl⟩ := Campaign.edit_ok.mp hc'
    rfl
  have hread := (hc hopen).later (h₂.trans h₃)
  exact (guarded_updateCampaign hread (.campaign id) hid).thenPure

end Course

/-! ## Saving -/

section Saving

variable {ns : List Note}

theorem guarded_enrol (now : Instant) (id : CampaignId) (i : AssigneeInput) :
    Guarded none (Script.link.store.enrol now id i) ns :=
  .bind (sends_ofMinting.imp fun _ _ _ _ => sends_call guarded_insert)

theorem guarded_create (now : Instant) (r : SaveRequest) (item : Item) (variant : Option Variant) :
    Guarded none (Script.link.store.createCampaign now r item variant) ns := by
  refine .bind (sends_ofMinting.imp fun c ns₁ _ _ => ?_)
  refine .bind (guarded_createCampaign.imp fun _ ns₂ _ _ => ?_)
  have hpose : Guarded none (Script.link.store.poseQuestionnaire c.id r.questionnaire) ns₂ := by
    cases r.questionnaire with
    | none => exact .pure trivial
    | some q => exact .bind (sends_ofMinting.imp fun _ _ _ _ => guarded_saveQuestionnaire)
  refine .bind (hpose.imp fun _ ns₃ _ _ => ?_)
  have henrol : Guarded none (eachOf (Script.link.store.enrol now c.id)
      (r.assignees.filter fun i => !i.deleted)) ns₃ :=
    .eachOf fun i _ _ _ => guarded_enrol now c.id i
  exact henrol.thenPure

theorem guarded_reconcileQuestionnaire (id : CampaignId) (q : Option QuestionnaireInput) :
    Guarded none (Script.link.store.reconcileQuestionnaire id q) ns := by
  cases q with
  | some q =>
    refine .bind (guarded_findQuestionnaire.imp fun old ns₁ _ _ => ?_)
    exact .bind (sends_ofMinting.imp fun _ _ _ _ => guarded_saveQuestionnaire)
  | none =>
    refine .bind ((sends_call (sends_write ⟨rfl, .free rfl⟩)).imp fun _ ns₁ _ _ => ?_)
    refine sends_call (guarded_free fun st hst => ?_)
    simp only [List.mem_cons, List.not_mem_nil, or_false] at hst
    rcases hst with rfl | rfl <;> exact ⟨rfl, rfl⟩

theorem guarded_checkSubmission (id : CampaignId) (a : Assignee) (i : AssigneeInput) :
    Guarded none (Script.link.store.checkSubmission id a i) ns := by
  unfold Store.checkSubmission
  cases Store.neededSubmission i.stage with
  | none => exact .pure trivial
  | some kind =>
    refine .tryCatch reads_latestExamination.thenPure ?_
    intro f ns' _
    cases f <;> exact .throw

theorem guarded_reconcileAssignees (hopen : IsOpen ns) (now : Instant) (id : CampaignId)
    (inputs : List AssigneeInput) :
    Guarded none (Script.link.store.reconcileAssignees now id inputs) ns := by
  refine .bind (reads_assigneesAmong.imp fun as ns₁ _ has => ?_)
  refine .eachOf fun i _ ns₂ h₂ => ?_
  have hlocks := Selection.Locks.assigneesAmong id (inputs.map AssigneeInput.blogger) none
  cases hfound : (Keyed.ofList (as.map fun a => (a.blogger, a))).get? i.blogger with
  | none =>
    simp only [Store.reconcileAssignee]
    split
    · exact .pure trivial
    · exact guarded_enrol now id i
  | some a =>
    -- who is found by name is one of those that were selected under the lock
    obtain ⟨a', ha, heq⟩ := List.mem_map.mp (Keyed.mem_of_get?_ofList hfound)
    obtain ⟨_, rfl⟩ := Prod.mk.inj heq
    have hread := (has hopen a' ha).later h₂
    simp only [Store.reconcileAssignee]
    split
    · refine .bind (sends_obey.imp fun _ ns₃ h₃ _ => ?_)
      exact guarded_deleteAssignee (hread.later h₃) hlocks
    · refine .bind ((guarded_checkSubmission id a' i).imp fun _ ns₃ h₃ _ => ?_)
      refine .bind (sends_obey.imp fun paid ns₄ h₄ ⟨_, hpaid⟩ => ?_)
      obtain ⟨_, rfl⟩ := Assignee.setFee_ok.mp hpaid
      exact guarded_writeBack ((hread.later h₃).later h₄) hlocks rfl

theorem guarded_update (hopen : IsOpen ns) (now : Instant) (id : CampaignId) (r : SaveRequest)
    (item : Item) (variant : Option Variant) :
    Guarded none (Script.link.store.updateCampaign now id r item variant) ns := by
  refine .bind (sends_obey.imp fun _ ns₁ h₁ _ => ?_)
  refine .bind (reads_getCampaign.imp fun c ns₂ h₂ hc => ?_)
  refine .bind (sends_ofExcept.imp fun c' ns₃ h₃ ⟨_, hc'⟩ => ?_)
  have hread := (hc (hopen.later h₁)).later h₃
  refine .bind ((guarded_updateCampaign hread (.campaign id)
    (SaveRequest.revision_id hc')).imp fun _ ns₄ h₄ _ => ?_)
  refine .bind ((guarded_reconcileQuestionnaire id r.questionnaire).imp fun _ ns₅ h₅ _ => ?_)
  have hlater := (((h₁.trans h₂).trans h₃).trans h₄).trans h₅
  exact guarded_reconcileAssignees (hopen.later hlater) now id r.assignees

end Saving

/-! ## Commands -/

/-- The service on a scripted connection. -/
def Script.service (cap : Nat) (now : Instant) : Service Script Script :=
  { store := Script.link.store, catalog := Script.link.catalog, assigneeCap := cap, now }

theorem Bracketing.lockedFirst (g : Option Steering) : Bracketing (LockedFirst g) where
  bracket ns st h := .free (by cases st <;> first | rfl | cases h)
  serializable _ := .free rfl

theorem fits_unit {α β : Type} {g : Option Steering} {body : Task Script α} {f : α → β}
    {ns : List Note} (h : ∀ ns', IsOpen ns' → Guarded g body ns') :
    Fits (LockedFirst g) (f <$> Script.link.store.transact body) ns :=
  .map ((Sends.transact (.lockedFirst g) fun ns' hunit => h ns' hunit.isOpen).imp
    fun _ _ _ _ => trivial)

theorem fits_save (cap : Nat) (now : Instant) (r : SaveRequest) {ns : List Note} :
    Fits (LockedFirst none) ((Script.service cap now).save r) ns := by
  refine .bind (sends_obey.imp fun _ ns₁ _ _ => .bind ?_)
  have hlookUp : ∀ key : ItemKey, Sends Script.notes (LockedFirst none)
      (Script.link.lookUp key) ns₁ fun _ _ => True :=
    fun _ => sends_lookUp fun _ _ _ => .free rfl
  refine (sends_ofState (hlookUp _)).imp fun found ns₂ _ _ => ?_
  refine .transact (.lockedFirst none) fun ns₃ hunit => ?_
  cases r.id with
  | none => exact guarded_create now r found.1 found.2
  | some id =>
    exact (guarded_update hunit.isOpen now id r found.1 found.2).thenPure

/-- Every row that a command other than a deletion changes was locked before, in the same unit of
work; and where the stage of an assignee follows the flags of its campaign, they were read from the
locked row of the campaign. -/
theorem lock_before_write (cap : Nat) (now : Instant) (c : Command) (hc : ∀ id, c ≠ .delete id)
    (w : World Script) :
    Sent (LockedFirst c.steering?) w.state.notes
      ((Script.service cap now).run c w).2.state.notes := by
  have hfits : Fits (LockedFirst c.steering?) ((Script.service cap now).run c) w.state.notes := by
    cases c with
    | delete id => exact absurd rfl (hc id)
    | save r => exact .map (fits_save cap now r)
    | complete id => exact fits_unit fun _ hopen => guarded_complete hopen id
    | invite id => exact fits_unit fun _ hopen => guarded_invite hopen id
    | answerInvitation id b accepted answers =>
      exact fits_unit fun _ hopen => guarded_answerInvitation hopen id b accepted answers
    | decline id b reason => exact fits_unit fun _ hopen => guarded_decline hopen id b reason
    | applyLottery id results =>
      exact fits_unit fun _ hopen => guarded_applyLottery hopen id results
    | finishShipment id => exact fits_unit fun _ hopen => guarded_finishShipment hopen id
    | completePayment id bs =>
      simp only [Service.run]
      cases firstRepeat? [] bs with
      | some b => exact sends_obey.imp fun _ _ _ _ => trivial
      | none => exact fits_unit fun _ hopen => guarded_completePayment hopen id bs
    | submit id b kind entry =>
      exact fits_unit fun _ hopen => guarded_submit hopen now id b kind entry
    | applyVerdicts id kind verdicts =>
      exact fits_unit fun _ hopen => guarded_applyVerdicts hopen id kind verdicts
  exact (hfits w rfl).1

section Acceptance

/-- A campaign with a lottery, and a blogger who is invited. -/
def lotteryRow : Row :=
  [.string "campaign", .string "name", (Item.placeholder ⟨"item"⟩).json, .null, .bool false, .null,
    .bool false, .int 0, .int 0, .bool false, .bool false, .bool false, .bool false, .bool false,
    .bool true, .int 0, .string "features", .string "points", .string "reference", .string "other",
    MailToggles.json {}, .bool false, .string "2024-01-01T00:00:00Z", .string "name",
    .string "content", .string "image", .string "url", .int 0, .int 0, .int 0, .int 0]

def invitedRow : Row :=
  [.string "assignee", .string "campaign", .string "blogger", .int 100,
    .int (code Stage.invitation), .null, .ofTexts [], .null, .string "2024-01-01T00:00:00Z"]

/-- There are neither schedules nor a questionnaire. -/
def acceptanceScript : Script :=
  { replies := [{ rows := some [lotteryRow] }, {}, {}, { rows := some [invitedRow] }] }

/-- The run of an acceptance. -/
def acceptanceRun : Except Fault Outcome × World Script :=
  (Script.service standardAssigneeCap ⟨0, 0⟩).run
    (.answerInvitation ⟨"campaign"⟩ ⟨"blogger"⟩ true {}) ⟨.counting, acceptanceScript⟩

/-- The invitation is accepted, the assignee is written, and its row was locked before. -/
theorem lock_before_write_of_acceptance :
    acceptanceRun.1.isOk = true ∧
    (∃ fields, .update .assignee "assignee" fields ∈ acceptanceRun.2.state.sent) ∧
    Sent (LockedFirst (Command.answerInvitation ⟨"campaign"⟩ ⟨"blogger"⟩ true {}).steering?) []
      acceptanceRun.2.state.notes := by
  have hsent : ∃ fields,
      acceptanceRun.2.state.sent[6]? = some (.update .assignee "assignee" fields) := ⟨_, rfl⟩
  obtain ⟨fields, hfields⟩ := hsent
  refine ⟨rfl, ⟨fields, List.mem_of_getElem? hfields⟩, ?_⟩
  exact lock_before_write standardAssigneeCap ⟨0, 0⟩ _ (fun _ h => by cases h)
    ⟨.counting, acceptanceScript⟩

end Acceptance

end Sql

end Sponsorship
