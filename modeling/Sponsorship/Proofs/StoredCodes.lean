import Sponsorship.Proofs.Reading
import Sponsorship.Sql.Script
import Sponsorship.Sql.Store

/-!
# Sponsorship.Proofs.StoredCodes

Rows whose columns have their types, but whose codes and counts need not mean anything.

* `StoredValue`, `StoredValue.Decodes`: a code or a count as it is stored; whether it means something.
* `Checks vs r`: the result `r` stands exactly if all of the values decode, and names one that does
  not. One rule for each way decoding is put together, and a lemma for each kind of row.
* `assembled_ok`: campaigns that are put together of rows, each with its own schedules.
-/

namespace Sponsorship

/-- The codes of a set. -/
def CodeSet.codes : CodeSet → List Int
  | .stage => (words (α := Stage)).map code
  | .scheduleKind => (words (α := ScheduleKind)).map code
  | .entryKind => (words (α := EntryKind)).map code
  | .questionKind => (words (α := QuestionKind)).map code
  | .postTarget => (words (α := PostTarget)).map code
  | .commissionKind => (words (α := CommissionKind)).map code

namespace Sql

/-! ## Values -/

/-- A value that the type of its column allows, but that need not mean anything. -/
inductive StoredValue
  | code (column : String) (set : CodeSet) (n : Int)
  | count (n : Int)

namespace StoredValue

/-- The code is a known one; the count fits 32 bits. -/
def Decodes : StoredValue → Prop
  | .code _ set n => n ∈ set.codes
  | .count n => 0 ≤ n ∧ n < 0x100000000

instance : DecidablePred Decodes
  | .code _ set n => inferInstanceAs (Decidable (n ∈ set.codes))
  | .count n => inferInstanceAs (Decidable (0 ≤ n ∧ n < 0x100000000))

/-- What is wrong, by the name of the column. -/
def outage : StoredValue → Outage
  | .code column set n => .corrupt column (.code (.unknownCode set n))
  | .count n =>
    .corrupt "examination submission count" (if n < 0 then .countTooSmall else .countTooLarge)

end StoredValue

/-- The result stands exactly if all of the values decode; otherwise it names one that does not. -/
def Checks {α : Type} (vs : List StoredValue) : Except Outage α → Prop
  | .ok _ => ∀ v ∈ vs, v.Decodes
  | .error e => ∃ v ∈ vs, ¬ v.Decodes ∧ e = v.outage

namespace Checks

variable {α β : Type} {vs ws : List StoredValue} {r : Except Outage α}

theorem congr (h : Checks vs r) (hmem : ∀ v, v ∈ vs ↔ v ∈ ws) : Checks ws r := by
  cases r with
  | ok a => exact fun v hv => h v ((hmem v).mpr hv)
  | error e =>
    obtain ⟨v, hv, hbad⟩ := h
    exact ⟨v, (hmem v).mp hv, hbad⟩

theorem ok (a : α) : Checks [] (.ok a) := fun _ hv => (by cases hv)

theorem bind {x : Except Outage α} {f : α → Except Outage β} (hx : Checks vs x)
    (hf : ∀ a, x = .ok a → Checks ws (f a)) : Checks (vs ++ ws) (x >>= f) := by
  cases x with
  | error e =>
    obtain ⟨v, hv, hbad⟩ := hx
    exact ⟨v, List.mem_append_left ws hv, hbad⟩
  | ok a =>
    have hrest : Checks ws (f a) := hf a rfl
    change Checks (vs ++ ws) (f a)
    cases hfa : f a with
    | ok b =>
      rw [hfa] at hrest
      exact fun v hv => (List.mem_append.mp hv).elim (hx v) (hrest v)
    | error e =>
      rw [hfa] at hrest
      obtain ⟨v, hv, hbad⟩ := hrest
      exact ⟨v, List.mem_append_right vs hv, hbad⟩

/-- How a result is put does not matter. -/
theorem thenOk {x : Except Outage α} {f : α → β} (hx : Checks vs x) :
    Checks vs (x >>= fun a => .ok (f a)) := by
  have h := hx.bind (f := fun a => Except.ok (f a)) fun a _ => ok (f a)
  rwa [List.append_nil] at h

theorem mapM {f : α → Except Outage β} {values : α → List StoredValue} {as : List α}
    (h : ∀ a, Checks (values a) (f a)) : Checks (as.flatMap values) (as.mapM f) := by
  induction as with
  | nil => exact ok []
  | cons a rest ih =>
    rw [List.mapM_cons, List.flatMap_cons]
    exact (h a).bind fun b _ => ih.thenOk

/-- A code is looked up among the words of its set. -/
theorem decoded [Coded α] {column : String} {n : Int}
    (hset : (Coded.codeSet α).codes = (words (α := α)).map code) :
    Checks [.code column (Coded.codeSet α) n] (decoded (α := α) column n) := by
  unfold Sql.decoded Coded.ofCode Coded.ofCode?
  cases hfind : (words (α := α)).find? fun w => code w == n with
  | some a =>
    intro v hv
    rw [List.mem_singleton.mp hv]
    change n ∈ (Coded.codeSet α).codes
    rw [hset]
    have hcode : code a = n := by simpa using List.find?_some hfind
    exact hcode ▸ List.mem_map_of_mem (List.mem_of_find?_eq_some hfind)
  | none =>
    refine ⟨_, List.mem_singleton_self _, fun hknown => ?_, rfl⟩
    change n ∈ (Coded.codeSet α).codes at hknown
    rw [hset] at hknown
    obtain ⟨a, ha, hcode⟩ := List.mem_map.mp hknown
    exact absurd (List.find?_eq_none.mp hfind a ha) (by simp [hcode])

end Checks

/-! ## Rows -/

def AssigneeRow.values (r : AssigneeRow) : List StoredValue :=
  [.code "assignee.stage" .stage r.stage]

theorem AssigneeRow.checks (r : AssigneeRow) : Checks r.values r.assignee :=
  (Checks.decoded rfl).thenOk

def StageCountRow.values (r : StageCountRow) : List StoredValue :=
  [.code "assignee.stage" .stage r.stage]

theorem StageCountRow.checks (r : StageCountRow) : Checks r.values r.stageCount :=
  (Checks.decoded rfl).thenOk

def QuestionRow.values (r : QuestionRow) : List StoredValue :=
  [.code "questionnaire_question.question_type" .questionKind r.kind]

theorem QuestionRow.checks (r : QuestionRow) : Checks r.values r.question :=
  (Checks.decoded rfl).thenOk

def ScheduleRow.values (r : ScheduleRow) : List StoredValue :=
  [.code "schedule.schedule_type" .scheduleKind r.kind]

theorem ScheduleRow.checks (r : ScheduleRow) : Checks r.values r.schedule :=
  (Checks.decoded rfl).thenOk

namespace ExaminationRow

def values (r : ExaminationRow) : List StoredValue :=
  [.code "examination.entry_type" .entryKind r.kind]

theorem checks_count (n : Int) : Checks [.count n] (checkCount n) := by
  unfold checkCount
  by_cases hlow : n < 0
  · rw [if_pos hlow]
    refine ⟨_, List.mem_singleton_self _, fun hfits => ?_, by rw [StoredValue.outage, if_pos hlow]⟩
    exact absurd hfits.1 (by omega)
  · by_cases hhigh : 0x100000000 ≤ n
    · rw [if_neg hlow, if_pos hhigh]
      refine ⟨_, List.mem_singleton_self _, fun hfits => ?_, by rw [StoredValue.outage, if_neg hlow]⟩
      exact absurd hfits.2 (by omega)
    · rw [if_neg hlow, if_neg hhigh]
      intro v hv
      rw [List.mem_singleton.mp hv]
      exact ⟨by omega, by omega⟩

theorem checks (r : ExaminationRow) (n : Int) :
    Checks (r.values ++ [.count n]) (r.examination n) :=
  (Checks.decoded rfl).bind fun _ _ => (checks_count n).thenOk

end ExaminationRow

namespace CampaignRow

def values (r : CampaignRow) : List StoredValue :=
  [.code "offer_item.post_target" .postTarget r.target,
    .code "drafted_item_info.min_commission_type" .commissionKind r.minimum.kind,
    .code "drafted_item_info.max_commission_type" .commissionKind r.maximum.kind]

theorem checks (r : CampaignRow) (schedules : List Schedule) :
    Checks r.values (r.campaign schedules) := by
  have hcommission : ∀ (c : CommissionRow) (column : String),
      Checks [.code column .commissionKind c.kind] (c.commission column) :=
    fun c column => (Checks.decoded rfl).thenOk
  exact (Checks.decoded rfl).bind fun _ _ => (hcommission _ _).bind fun _ _ =>
    (hcommission _ _).thenOk

/-- The schedules of a campaign are those that it was put together with. -/
theorem campaign_schedules {r : CampaignRow} {schedules : List Schedule} {c : Campaign}
    (h : r.campaign schedules = .ok c) : c.schedules = schedules := by
  obtain ⟨_, _, h⟩ := Except.bind_ok.mp h
  obtain ⟨_, _, h⟩ := Except.bind_ok.mp h
  obtain ⟨_, _, h⟩ := Except.bind_ok.mp h
  cases h
  rfl

end CampaignRow

/-! ## Campaigns with their schedules -/

theorem checks_assembled (schedules : List (CampaignId × Schedule)) (rows : List CampaignRow) :
    Checks (rows.flatMap CampaignRow.values) (assembled schedules rows) := by
  induction rows generalizing schedules with
  | nil => exact .ok []
  | cons row rest ih => exact (row.checks _).bind fun _ _ => (ih _).thenOk

/-- There are as many campaigns as rows. -/
theorem assembled_length {schedules : List (CampaignId × Schedule)} {rows : List CampaignRow}
    {cs : List Campaign} (h : assembled schedules rows = .ok cs) : cs.length = rows.length := by
  induction rows generalizing schedules cs with
  | nil => cases h; rfl
  | cons row rest ih =>
    obtain ⟨c, _, h⟩ := Except.bind_ok.mp h
    obtain ⟨others, hothers, h⟩ := Except.bind_ok.mp h
    cases h
    rw [List.length_cons, List.length_cons, ih hothers]

/-- Where the rows are of different campaigns, each campaign has all schedules that are its own. -/
theorem assembled_ok {schedules : List (CampaignId × Schedule)} {rows : List CampaignRow}
    {cs : List Campaign} (hd : (rows.map CampaignRow.id).Nodup)
    (h : assembled schedules rows = .ok cs) :
    List.Forall₂ (fun row c => row.campaign
      ((schedules.filter fun s => s.1 = row.id).map Prod.snd) = .ok c) rows cs := by
  induction rows generalizing schedules cs with
  | nil => cases h; exact .nil
  | cons row rest ih =>
    rw [List.map_cons, List.nodup_cons] at hd
    unfold assembled at h
    rw [List.partition_eq_filter_filter] at h
    obtain ⟨c, hc, h⟩ := Except.bind_ok.mp h
    obtain ⟨others, hothers, h⟩ := Except.bind_ok.mp h
    cases h
    refine .cons hc ((List.forall₂_iff_zip.mp (ih hd.2 hothers)).elim fun hlen hzip => ?_)
    refine List.forall₂_iff_zip.mpr ⟨hlen, fun {other c'} hmem => ?_⟩
    have hne : other.id ≠ row.id := fun heq =>
      hd.1 (heq ▸ List.mem_map_of_mem (List.of_mem_zip hmem).1)
    have hsame : (schedules.filter fun s => !decide (s.1 = row.id)).filter (fun s => s.1 = other.id) =
        schedules.filter fun s => s.1 = other.id := by
      rw [List.filter_filter]
      refine List.filter_congr fun s _ => ?_
      by_cases hs : s.1 = other.id
      · simp [hs, hne]
      · simp [hs]
    have hother := hzip hmem
    rw [← hsame]
    exact hother

/-- A campaign is made of its row, with the schedules of those schedule rows that have its
identifier, in their order. -/
structure MadeOf (schedules : List ScheduleRow) (row : CampaignRow) (c : Campaign) : Prop where
  made : row.campaign c.schedules = .ok c
  schedules : List.Forall₂ (fun r s => r.schedule = .ok s)
    (schedules.filter fun r => r.campaign = row.id) c.schedules

/-- The schedules of one campaign, among those that were decoded. -/
theorem decoded_own {rows : List ScheduleRow} {schedules : List (CampaignId × Schedule)}
    (h : rows.mapM (fun r => do return (r.campaign, ← r.schedule)) = .ok schedules)
    (id : CampaignId) : List.Forall₂ (fun r s => ScheduleRow.schedule r = .ok s)
      (rows.filter fun r => r.campaign = id)
      ((schedules.filter fun s => s.1 = id).map Prod.snd) := by
  have hall := Except.mapM_forall₂ h
  clear h
  induction hall with
  | nil => exact .nil
  | @cons r s rest others hr _ ih =>
    obtain ⟨schedule, hschedule, hs⟩ := Except.bind_ok.mp hr
    cases hs
    by_cases hid : r.campaign = id
    · rw [List.filter_cons_of_pos (by simpa using hid), List.filter_cons_of_pos (by simpa using hid)]
      exact .cons hschedule ih
    · rw [List.filter_cons_of_neg (by simpa using hid), List.filter_cons_of_neg (by simpa using hid)]
      exact ih

theorem madeOf_assembled {rows : List CampaignRow} {scheduleRows : List ScheduleRow}
    {schedules : List (CampaignId × Schedule)} {cs : List Campaign}
    (hd : (rows.map CampaignRow.id).Nodup)
    (hs : scheduleRows.mapM (fun r => do return (r.campaign, ← r.schedule)) = .ok schedules)
    (h : assembled schedules rows = .ok cs) : List.Forall₂ (MadeOf scheduleRows) rows cs :=
  (assembled_ok hd h).imp fun row c hc => by
    have hown := CampaignRow.campaign_schedules hc
    exact ⟨hown ▸ hc, hown ▸ decoded_own hs row.id⟩

end Sql

end Sponsorship
