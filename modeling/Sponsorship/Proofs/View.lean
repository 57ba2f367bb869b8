import Mathlib.Data.List.Nodup
import Sponsorship.Store.Memory

/-!
# Sponsorship.Proofs.View

The rows of one campaign, and the rows of all others.

* `Tables.restrict`, `Tables.of`, `Tables.others`: parts of the tables, in the order of the tables.
* `replaceFirst?_filter`, `filter_replaceFirst?`: a row is replaced in the part that it belongs to,
  and no other part changes.
* `Tables.Local id t c`: in tables `t` the call `c` reads and writes the rows of campaign `id` alone.
  Reads and writes that go by the campaign are local; those that go by the identifier of a row are
  where no other campaign has a row with it.
-/

namespace Sponsorship

/-! ## Replacing within a part -/

section Replace

variable {α : Type} {m r : α → Bool} {f : α → α} {as as' : List α}

theorem replaceFirst?_filter (as : List α)
    (h : ∀ a ∈ as, m a = true → r a = true ∧ r (f a) = true) :
    replaceFirst? m f (as.filter r) = (replaceFirst? m f as).map (List.filter r) := by
  induction as with
  | nil => rfl
  | cons a rest ih =>
    have ih := ih fun b hb => h b (List.mem_cons_of_mem a hb)
    by_cases hm : m a = true
    · obtain ⟨hr, hrf⟩ := h a List.mem_cons_self hm
      simp [replaceFirst?, hm, hr, hrf]
    · have hcons : ∀ bs, replaceFirst? m f (a :: bs) = (replaceFirst? m f bs).map (a :: ·) := by
        intro bs
        rw [replaceFirst?, if_neg hm]
      by_cases hr : r a = true
      · rw [List.filter_cons_of_pos hr, hcons, hcons, ih]
        cases replaceFirst? m f rest <;> simp [hr]
      · rw [List.filter_cons_of_neg hr, hcons, ih]
        cases replaceFirst? m f rest <;> simp [hr]

theorem filter_replaceFirst? (h : ∀ a ∈ as, m a = true → r a = false ∧ r (f a) = false)
    (has : replaceFirst? m f as = some as') : as'.filter r = as.filter r := by
  induction as generalizing as' with
  | nil => cases has
  | cons a rest ih =>
    unfold replaceFirst? at has
    split at has
    · rename_i hm
      obtain ⟨hr, hrf⟩ := h a List.mem_cons_self hm
      cases has
      simp [hr, hrf]
    · obtain ⟨bs, hbs, rfl⟩ := Option.map_eq_some_iff.mp has
      rw [List.filter_cons, List.filter_cons, ih (fun b hb => h b (List.mem_cons_of_mem a hb)) hbs]

theorem mem_replaceFirst? (has : replaceFirst? m f as = some as') {b : α} (hb : b ∈ as') :
    b ∈ as ∨ ∃ a ∈ as, b = f a := by
  induction as generalizing as' with
  | nil => cases has
  | cons a rest ih =>
    unfold replaceFirst? at has
    split at has
    · cases has
      rcases List.mem_cons.mp hb with rfl | hb
      · exact .inr ⟨a, List.mem_cons_self, rfl⟩
      · exact .inl (List.mem_cons_of_mem a hb)
    · obtain ⟨bs, hbs, rfl⟩ := Option.map_eq_some_iff.mp has
      rcases List.mem_cons.mp hb with rfl | hb
      · exact .inl List.mem_cons_self
      · rcases ih hbs hb with hb | ⟨x, hx, rfl⟩
        · exact .inl (List.mem_cons_of_mem a hb)
        · exact .inr ⟨x, List.mem_cons_of_mem a hx, rfl⟩

end Replace

/-! ## Parts of a map -/

namespace Keyed

variable {κ α : Type} [DecidableEq κ] {m m' : Keyed κ α} {p : κ → Bool} {k : κ} {a : α}

omit [DecidableEq κ] in
theorem ext_entries (h : m.entries = m'.entries) : m = m' := by
  cases m
  cases m'
  cases h
  rfl

/-- The pairs whose keys satisfy `p`. -/
def restrict (p : κ → Bool) (m : Keyed κ α) : Keyed κ α :=
  { entries := m.entries.filter fun e => p e.1
    nodup := m.nodup.sublist (List.filter_sublist.map _) }

theorem get?_restrict (hk : p k = true) : (m.restrict p).get? k = m.get? k := by
  unfold get? restrict
  rw [List.find?_filter]
  congr 2
  funext e
  by_cases he : e.1 = k
  · simp [he, hk]
  · simp [he]

omit [DecidableEq κ] in
theorem mem_keys_restrict : k ∈ (m.restrict p).keys ↔ k ∈ m.keys ∧ p k = true := by
  unfold keys restrict
  constructor
  · intro h
    obtain ⟨e, he, rfl⟩ := List.mem_map.mp h
    obtain ⟨he, hp⟩ := List.mem_filter.mp he
    exact ⟨List.mem_map_of_mem he, hp⟩
  · rintro ⟨h, hp⟩
    obtain ⟨e, he, rfl⟩ := List.mem_map.mp h
    exact List.mem_map_of_mem (List.mem_filter.mpr ⟨he, hp⟩)

theorem restrict_insert (hk : p k = true) :
    (m.insert k a).restrict p = (m.restrict p).insert k a := by
  apply ext_entries
  unfold insert
  by_cases hmem : k ∈ m.keys
  · rw [dif_pos hmem, dif_pos (mem_keys_restrict.mpr ⟨hmem, hk⟩)]
    simp only [restrict, List.filter_map]
    congr 1
    refine List.filter_congr fun e _ => ?_
    simp only [Function.comp]
    split <;> rfl
  · rw [dif_neg hmem, dif_neg fun h => hmem (mem_keys_restrict.mp h).1]
    simp [restrict, hk]

theorem restrict_insert_of_not (hk : p k = false) : (m.insert k a).restrict p = m.restrict p := by
  apply ext_entries
  unfold insert
  split
  · simp only [restrict]
    induction m.entries with
    | nil => rfl
    | cons e rest ih =>
      rw [List.map_cons, List.filter_cons, List.filter_cons, ih]
      by_cases he : e.1 = k
      · simp [he, hk]
      · simp [he]
  · simp [restrict, hk]

theorem restrict_erase : (m.erase k).restrict p = (m.restrict p).erase k := by
  apply ext_entries
  simp only [restrict, erase, List.filter_filter, Bool.and_comm]

theorem restrict_erase_of_not (hk : p k = false) : (m.erase k).restrict p = m.restrict p := by
  apply ext_entries
  simp only [restrict, erase, List.filter_filter]
  refine List.filter_congr fun e _ => ?_
  by_cases he : e.1 = k
  · simp [he, hk]
  · simp [he]

end Keyed

/-! ## Parts of the tables -/

deriving instance DecidableEq for Keyed
deriving instance DecidableEq for Tables

namespace Tables

/-- The rows of the campaigns that satisfy `p`. -/
def restrict (p : CampaignId → Bool) (t : Tables) : Tables :=
  { campaigns := t.campaigns.filter fun c => p c.id
    assignees := t.assignees.filter fun a => p a.campaign
    examinations := t.examinations.filter fun e => p e.campaign
    questionnaires := t.questionnaires.restrict p
    answers := t.answers.filter fun x => p x.campaign }

/-- The rows of a campaign. -/
def of (id : CampaignId) (t : Tables) : Tables := t.restrict fun c => c = id

/-- The rows of all campaigns but one. -/
def others (id : CampaignId) (t : Tables) : Tables := t.restrict fun c => c ≠ id

variable {t : Tables} {id : CampaignId}

theorem campaign?_of : (t.of id).campaign? id = t.campaign? id := by
  simp only [campaign?, of, restrict, List.find?_filter, and_self, decide_eq_true_eq]

theorem participation?_of (b : BloggerId) :
    (t.of id).participation? id b = t.participation? id b := by
  simp only [participation?, of, restrict, List.find?_filter]
  congr 1
  funext a
  by_cases h : a.campaign = id <;> simp [h]

theorem assigneesOf_of (stage : Option Stage) :
    (t.of id).assigneesOf id stage = t.assigneesOf id stage := by
  simp only [assigneesOf, of, restrict, List.filter_filter]
  refine List.filter_congr fun a _ => ?_
  by_cases h : a.campaign = id <;> simp [h]

theorem submissions_of (a : AssigneeId) (kind : EntryKind) :
    (t.of id).submissions id a kind = t.submissions id a kind := by
  simp only [submissions, of, restrict, List.filter_filter]
  refine List.filter_congr fun e _ => ?_
  by_cases h : e.campaign = id <;> simp [h]

theorem latestExamination?_of (a : AssigneeId) (kind : EntryKind) :
    (t.of id).latestExamination? id a kind = t.latestExamination? id a kind := by
  unfold latestExamination?
  rw [submissions_of]

theorem questionnaire?_of : (t.of id).questionnaires.get? id = t.questionnaires.get? id :=
  Keyed.get?_restrict (by simp)

theorem saveAnswer_of {x : Answer} (hx : x.campaign = id) :
    (t.of id).saveAnswer x = (t.saveAnswer x).of id := by
  simp [saveAnswer, of, restrict, List.filter_append, hx, Bool.and_comm]

/-- An answer replaces answers of its own campaign only. -/
theorem saveAnswer_others {x : Answer} (hx : x.campaign = id) :
    (t.saveAnswer x).others id = t.others id := by
  simp only [saveAnswer, others, restrict, List.filter_append, List.filter_filter]
  congr 1
  have hnone : [x].filter (fun y => decide (y.campaign ≠ id)) = [] := by simp [hx]
  rw [hnone, List.append_nil]
  refine List.filter_congr fun y _ => ?_
  by_cases hy : y.campaign = id
  · simp [hy]
  · simp [hy, hx]

/-! ## Local calls -/

/-- In tables `t` a call reads and writes the rows of a campaign alone. -/
structure Local (id : CampaignId) (t : Tables) (c : Call) : Prop where
  own : (t.of id).answer c = ((t.answer c).1, (t.answer c).2.of id)
  rest : (t.answer c).2.others id = t.others id

namespace Local

theorem getCampaign (lock : Bool) : Local id t (.getCampaign id lock) :=
  ⟨by simp only [answer, campaign?_of], rfl⟩

theorem getAssignee (b : BloggerId) (lock : Bool) : Local id t (.getAssignee id b lock) :=
  ⟨by simp only [answer, participation?_of], rfl⟩

theorem listAssignees (stage : Option Stage) (lock : Bool) :
    Local id t (.listAssignees id stage lock) :=
  ⟨by simp only [answer, assigneesOf_of], rfl⟩

theorem assigneesAmong (bs : List BloggerId) (stage : Option Stage) (lock : Bool) :
    Local id t (.assigneesAmong id bs stage lock) :=
  ⟨by simp only [answer, assigneesOf_of], rfl⟩

theorem latestExamination (a : AssigneeId) (kind : EntryKind) (lock : Bool) :
    Local id t (.latestExamination id a kind lock) :=
  ⟨by simp only [answer, latestExamination?_of], rfl⟩

theorem findQuestionnaire (lock : Bool) : Local id t (.findQuestionnaire id lock) :=
  ⟨by simp only [answer, questionnaire?_of], rfl⟩

/-- Replacing a row of the campaign by another one of it. `rows` is the table and `put` writes it. -/
theorem changed {α : Type} (id : CampaignId) (rows : Tables → List α)
    (put : Tables → List α → Tables) (owner : α → CampaignId) {m : α → Bool} {f : α → α} (missing : Absent)
    (hrows : rows (t.of id) = (rows t).filter fun a => owner a = id)
    (hown : ∀ as, put (t.of id) (as.filter fun a => owner a = id) = (put t as).of id)
    (hrest : ∀ as, (as.filter fun a => owner a ≠ id) = ((rows t).filter fun a => owner a ≠ id) →
      (put t as).others id = t.others id)
    (h : ∀ a ∈ rows t, m a = true → owner a = id ∧ owner (f a) = id) :
    (t.of id).changed ((replaceFirst? m f (rows (t.of id))).map (put (t.of id))) missing =
        ((t.changed ((replaceFirst? m f (rows t)).map (put t)) missing).1,
          (t.changed ((replaceFirst? m f (rows t)).map (put t)) missing).2.of id) ∧
      (t.changed ((replaceFirst? m f (rows t)).map (put t)) missing).2.others id = t.others id := by
  rw [hrows, replaceFirst?_filter (rows t) (by simpa using h)]
  cases hr : replaceFirst? m f (rows t) with
  | none => exact ⟨rfl, rfl⟩
  | some as =>
    simp only [Option.map_some, Tables.changed, hown, true_and]
    exact hrest as (filter_replaceFirst? (by simpa using h) hr)

theorem updateCampaign {c : Campaign} (hc : c.id = id) : Local id t (.updateCampaign c) := by
  obtain ⟨hown, hrest⟩ := changed (t := t) id Tables.campaigns
    (fun t campaigns => { t with campaigns }) Campaign.id (m := fun o => o.id = c.id)
    (f := fun _ => c) (.campaign c.id) rfl (fun _ => rfl)
    (fun as h => by simp only [others, restrict, h]) (by simp [hc])
  exact ⟨hown, hrest⟩

theorem updateAssignee {a : Assignee} (ha : a.campaign = id)
    (h : ∀ o ∈ t.assignees, o.id = a.id → o.campaign = id) : Local id t (.updateAssignee a) := by
  obtain ⟨hown, hrest⟩ := changed (t := t) id Tables.assignees
    (fun t assignees => { t with assignees }) Assignee.campaign (m := fun o => o.id = a.id)
    (f := fun _ => a) (.assignee a.id) rfl (fun _ => rfl)
    (fun as h => by simp only [others, restrict, h]) (by simpa [ha] using h)
  exact ⟨hown, hrest⟩

theorem updateExamination {e : Examination} (he : e.campaign = id)
    (h : ∀ o ∈ t.examinations, o.id = e.id → o.campaign = id) :
    Local id t (.updateExamination e) := by
  obtain ⟨hown, hrest⟩ := changed (t := t) id Tables.examinations
    (fun t examinations => { t with examinations }) Examination.campaign
    (m := fun o => o.id = e.id) (f := fun o => { e with submissions := o.submissions })
    (.examination e.id) rfl (fun _ => rfl) (fun as h => by simp only [others, restrict, h])
    (by simpa [he] using h)
  exact ⟨hown, hrest⟩

theorem createAssignee {a : Assignee} (ha : a.campaign = id) : Local id t (.createAssignee a) := by
  subst ha
  constructor
  · simp only [answer, participation?_of]
    split
    · rfl
    · simp [of, restrict]
  · simp only [answer]
    split
    · rfl
    · simp [others, restrict]

theorem createExamination {e : Examination} (he : e.campaign = id) :
    Local id t (.createExamination e) := by
  subst he
  constructor <;> simp [answer, of, others, restrict]

theorem deleteAssignee {a : AssigneeId} (h : ∀ o ∈ t.assignees, o.id = a → o.campaign = id)
    (hx : ∀ x ∈ t.answers, x.assignee = a → x.campaign = id) : Local id t (.deleteAssignee a) := by
  constructor
  · simp only [answer, of, restrict, List.filter_filter, Bool.and_comm]
  · simp only [answer, others, restrict, List.filter_filter]
    congr 1
    · refine List.filter_congr fun o ho => ?_
      by_cases hoa : o.id = a
      · simp [h o ho hoa]
      · simp [hoa]
    · refine List.filter_congr fun x hx' => ?_
      by_cases hxa : x.assignee = a
      · simp [hx x hx' hxa]
      · simp [hxa]

theorem saveQuestionnaire {q : Questionnaire} (hq : q.campaign = id) :
    Local id t (.saveQuestionnaire q) := by
  subst hq
  constructor
  · simp only [answer, of, restrict]
    rw [Keyed.restrict_insert (by simp)]
  · simp only [answer, others, restrict]
    rw [Keyed.restrict_insert_of_not (by simp)]

theorem deleteQuestionnaire : Local id t (.deleteQuestionnaire id) := by
  constructor
  · simp only [answer, of, restrict, Keyed.restrict_erase]
  · simp only [answer, others, restrict]
    rw [Keyed.restrict_erase_of_not (by simp)]

theorem deleteAnswers : Local id t (.deleteAnswers id) := by
  constructor
  · simp only [answer, of, restrict, List.filter_filter, Bool.and_comm]
  · simp only [answer, others, restrict, List.filter_filter, Bool.and_self]

theorem deleteCampaign : Local id t (.deleteCampaign id) := by
  constructor
  · simp only [answer, Tables.deleteCampaign, of, restrict, List.filter_filter, Bool.and_comm,
      Keyed.restrict_erase]
  · simp only [answer, Tables.deleteCampaign, others, restrict, List.filter_filter, Bool.and_self]
    rw [Keyed.restrict_erase_of_not (by simp)]

theorem saveAnswers {answers : List Answer} (h : ∀ x ∈ answers, x.campaign = id) :
    Local id t (.saveAnswers answers) := by
  have hfold : answers.foldl saveAnswer (t.of id) = (answers.foldl saveAnswer t).of id ∧
      (answers.foldl saveAnswer t).others id = t.others id := by
    induction answers generalizing t with
    | nil => exact ⟨rfl, rfl⟩
    | cons x rest ih =>
      have hx := h x List.mem_cons_self
      obtain ⟨hown, hrest⟩ := ih (t := t.saveAnswer x) fun y hy => h y (List.mem_cons_of_mem x hy)
      rw [List.foldl_cons, List.foldl_cons, saveAnswer_of hx]
      exact ⟨hown, hrest.trans (saveAnswer_others hx)⟩
  constructor
  · simp only [answer]
    rw [hfold.1]
  · exact hfold.2

end Local

end Tables

end Sponsorship
