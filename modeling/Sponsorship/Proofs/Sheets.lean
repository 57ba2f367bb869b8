import Sponsorship.Proofs.Resave
import Sponsorship.Query

/-!
# Sponsorship.Proofs.Sheets

The answers to a questionnaire, from those that are given to those that are read.

* `Questionnaire.AnsweredBy`, `Answer.sheet_isOk_iff`: which answers are accepted. As many as there are
  questions are given, and each question has one, so that no others are given.
* `Answer.Fills`: the sheet that is made of them.
* `Tables.mem_saveAnswers_iff`, `Tables.filter_saveAnswers`: what is stored once a sheet is saved.
* `Tables.sheetOf`, `Tables.Collects`, `answerSheets_get?`: what is read, assignee by assignee.
* `sheets_read_back`: which answers are accepted, and what is read after an invitation is accepted, after
  every history.
-/

namespace Sponsorship

open Time

/-! ## Which answers are accepted -/

/-- The questions that are answered are those of the questionnaire, and choices are among the
options. -/
structure Questionnaire.AnsweredBy (q : Questionnaire) (given : Keyed QuestionId String) : Prop where
  keys : ∀ k, k ∈ given.keys ↔ k ∈ q.questionIds
  choices : ∀ question ∈ q.questions, question.kind = .radio →
    ∀ content, given.get? question.id = some content → content ∈ question.options

/-- The sheet has the given answer to each question, in the order of the questions. -/
structure Answer.Fills (q : Questionnaire) (assignee : AssigneeId)
    (given : Keyed QuestionId String) (sheet : List Answer) : Prop where
  questions : sheet.map Answer.question = q.questionIds
  answers : ∀ x ∈ sheet, x.campaign = q.campaign ∧ x.assignee = assignee ∧
    given.get? x.question = some x.content

namespace Answer

variable {q : Questionnaire} {assignee : AssigneeId} {given : Keyed QuestionId String}
  {question : Question} {x : Answer} {sheet : List Answer}

theorem find_ok : find q assignee given question = .ok x ↔
    ∃ content, given.get? question.id = some content ∧
      (question.kind = .radio → content ∈ question.options) ∧
      x = { campaign := q.campaign, assignee, question := question.id, content } := by
  unfold find
  cases given.get? question.id with
  | none => simp
  | some content =>
    by_cases hchoice : question.kind = .radio ∧ ¬ question.options.contains content
    · simp only [if_pos hchoice, reduceCtorEq, Option.some.injEq, false_iff]
      rintro ⟨_, rfl, hoption, _⟩
      exact hchoice.2 (List.contains_iff_mem.mpr (hoption hchoice.1))
    · simp only [if_neg hchoice, Except.ok.injEq, Option.some.injEq]
      have hoption : question.kind = .radio → content ∈ question.options := fun hradio =>
        by_contra fun hno => hchoice ⟨hradio, fun hc => hno (List.contains_iff_mem.mp hc)⟩
      constructor
      · rintro rfl; exact ⟨content, rfl, hoption, rfl⟩
      · rintro ⟨_, rfl, _, rfl⟩; rfl

theorem sheet_ok_iff : Answer.sheet q assignee given = .ok sheet ↔
    given.size = q.questions.length ∧ q.questions.mapM (find q assignee given) = .ok sheet := by
  unfold Answer.sheet
  rw [Except.check_ok, demand_ok, decide_eq_true_iff]

theorem fills_of_sheet (h : Answer.sheet q assignee given = .ok sheet) :
    Fills q assignee given sheet := by
  have hall := Except.mapM_forall₂ (sheet_ok_iff.mp h).2
  constructor
  · have hsame : List.Forall₂ (· = ·) (q.questions.map Question.id) (sheet.map Answer.question) := by
      refine List.forall₂_map_left_iff.mpr (List.forall₂_map_right_iff.mpr ?_)
      refine hall.imp fun question x hx => ?_
      obtain ⟨content, _, _, rfl⟩ := find_ok.mp hx
      rfl
    rw [List.forall₂_eq_eq_eq] at hsame
    exact hsame.symm
  · intro x hx
    obtain ⟨question, _, hfind⟩ := exists_left_of_forall₂ hall hx
    obtain ⟨content, hget, _, rfl⟩ := find_ok.mp hfind
    exact ⟨rfl, rfl, hget⟩

/-- Where questions differ, an answer to each of them and no more than that are answers to all of them
and to nothing else. -/
theorem sheet_isOk_iff (hd : q.questionIds.Nodup) :
    (∃ sheet, Answer.sheet q assignee given = .ok sheet) ↔ q.AnsweredBy given := by
  constructor
  · rintro ⟨sheet, h⟩
    obtain ⟨hsize, hfind⟩ := sheet_ok_iff.mp h
    have hall := Except.mapM_isOk_iff.mp ⟨sheet, hfind⟩
    have hsub : q.questionIds ⊆ given.keys := by
      intro k hk
      obtain ⟨question, hq, rfl⟩ := List.mem_map.mp hk
      obtain ⟨x, hx⟩ := hall question hq
      obtain ⟨content, hget, _⟩ := find_ok.mp hx
      exact List.mem_map_of_mem (Keyed.get?_eq_some_iff.mp hget)
    have hlength : given.keys.length ≤ q.questionIds.length := by
      unfold Keyed.keys Questionnaire.questionIds
      rw [List.length_map, List.length_map]
      exact hsize.le
    have hperm := (hd.subperm hsub).perm_of_length_le hlength
    refine ⟨fun k => hperm.mem_iff.symm, fun question hq hradio content hget => ?_⟩
    obtain ⟨x, hx⟩ := hall question hq
    obtain ⟨content', hget', hoption, _⟩ := find_ok.mp hx
    rw [hget] at hget'
    cases hget'
    exact hoption hradio
  · intro h
    have hfind : ∀ question ∈ q.questions, ∃ x, find q assignee given question = .ok x := by
      intro question hq
      have hmem := (h.keys question.id).mpr (List.mem_map_of_mem hq)
      cases hget : given.get? question.id with
      | none => exact absurd hmem (Keyed.get?_eq_none_iff.mp hget)
      | some content =>
        exact ⟨_, find_ok.mpr ⟨content, hget, fun hradio => h.choices question hq hradio _ hget, rfl⟩⟩
    obtain ⟨sheet, hsheet⟩ := Except.mapM_isOk_iff.mpr hfind
    have hperm : given.keys.Perm q.questionIds :=
      (List.perm_ext_iff_of_nodup given.nodup hd).mpr h.keys
    have hsize : given.size = q.questions.length := by
      have := hperm.length_eq
      unfold Keyed.keys Questionnaire.questionIds at this
      rwa [List.length_map, List.length_map] at this
    exact ⟨sheet, sheet_ok_iff.mpr ⟨hsize, hsheet⟩⟩

end Answer

/-! ## What is stored -/

namespace Tables

variable {t : Tables} {id : CampaignId} {assignee : AssigneeId} {answers : List Answer} {x : Answer}

theorem mem_saveAnswer {y : Answer} :
    x ∈ (t.saveAnswer y).answers ↔ x = y ∨ x ∈ t.answers ∧ x.place ≠ y.place := by
  simp only [saveAnswer, List.mem_append, List.mem_filter, List.mem_singleton, decide_eq_true_eq,
    Answer.place, ne_eq, Prod.mk.injEq]
  exact or_comm

/-- The answers of a sheet take the place of those to the same questions. -/
theorem mem_saveAnswers_iff (hd : (answers.map Answer.place).Nodup) :
    x ∈ (t.saveAnswers answers).answers ↔
      x ∈ answers ∨ x ∈ t.answers ∧ x.place ∉ answers.map Answer.place := by
  induction answers generalizing t with
  | nil => simp [saveAnswers]
  | cons y rest ih =>
    obtain ⟨hy, hrest⟩ := List.nodup_cons.mp hd
    have hcons : t.saveAnswers (y :: rest) = (t.saveAnswer y).saveAnswers rest := rfl
    rw [hcons, ih hrest, mem_saveAnswer, List.mem_cons, List.map_cons, List.mem_cons, not_or]
    constructor
    · rintro (hx | ⟨rfl | ⟨hx, hne⟩, hplace⟩)
      · exact .inl (.inr hx)
      · exact .inl (.inl rfl)
      · exact .inr ⟨hx, hne, hplace⟩
    · rintro ((rfl | hx) | ⟨hx, hne, hplace⟩)
      · exact .inr ⟨.inl rfl, hy⟩
      · exact .inl hx
      · exact .inr ⟨.inr ⟨hx, hne⟩, hplace⟩

/-- A selection without the places of a sheet is the same after the sheet is saved. -/
theorem filter_saveAnswers {p : Answer → Bool}
    (hp : ∀ y ∈ answers, ∀ x : Answer, x.place = y.place → p x = false) :
    (t.saveAnswers answers).answers.filter p = t.answers.filter p := by
  induction answers generalizing t with
  | nil => rfl
  | cons y rest ih =>
    have hcons : t.saveAnswers (y :: rest) = (t.saveAnswer y).saveAnswers rest := rfl
    rw [hcons, ih fun z hz => hp z (List.mem_cons_of_mem y hz)]
    have hout := hp y List.mem_cons_self
    have hgone : [y].filter p = [] := by rw [List.filter_singleton, hout y rfl]; rfl
    simp only [saveAnswer, List.filter_append, List.filter_filter, hgone, List.append_nil]
    refine List.filter_congr fun x _ => ?_
    rw [Bool.and_eq_left_iff_imp]
    intro hpx
    refine decide_eq_true fun hsame => ?_
    rw [hout x (Prod.ext hsame.1 (Prod.ext hsame.2.1 hsame.2.2))] at hpx
    cases hpx

/-- The answers of an assignee in a campaign, by question. -/
def sheetOf (t : Tables) (id : CampaignId) (assignee : AssigneeId) : AnswerSheet :=
  Keyed.ofList ((t.answers.filter fun x => x.campaign = id ∧ x.assignee = assignee).map fun x =>
    (x.question, x))

theorem sheetOf_get? (hd : (t.answers.map Answer.place).Nodup) {k : QuestionId} :
    (t.sheetOf id assignee).get? k = some x ↔ x ∈ t.answers ∧ x.place = (id, assignee, k) := by
  let own := t.answers.filter fun x => x.campaign = id ∧ x.assignee = assignee
  have hown : ∀ x ∈ own, x.campaign = id ∧ x.assignee = assignee := fun x hx => by
    simpa using (List.mem_filter.mp hx).2
  have hquestions : ((own.map fun x => (x.question, x)).map Prod.fst).Nodup := by
    have hplaces : (own.map Answer.place).Nodup := hd.sublist (List.filter_sublist.map _)
    have hsame : own.map Answer.place = (own.map Answer.question).map fun k => (id, assignee, k) := by
      rw [List.map_map]
      refine List.map_congr_left fun x hx => ?_
      obtain ⟨hcampaign, hassignee⟩ := hown x hx
      simp only [Answer.place, Function.comp, hcampaign, hassignee]
    rw [hsame] at hplaces
    rw [List.map_map]
    exact hplaces.of_map _
  change (Keyed.ofList (own.map fun x => (x.question, x))).get? k = some x ↔ _
  rw [Keyed.get?_eq_some_iff, Keyed.ofList_entries hquestions, List.mem_map]
  constructor
  · rintro ⟨y, hy, hyx⟩
    obtain ⟨rfl, rfl⟩ := Prod.mk.inj hyx
    obtain ⟨hcampaign, hassignee⟩ := hown y hy
    exact ⟨(List.mem_filter.mp hy).1, by simp only [Answer.place, hcampaign, hassignee]⟩
  · rintro ⟨hx, hplace⟩
    obtain ⟨hcampaign, hrest⟩ := Prod.mk.inj hplace
    obtain ⟨hassignee, rfl⟩ := Prod.mk.inj hrest
    exact ⟨x, List.mem_filter.mpr ⟨hx, decide_eq_true ⟨hcampaign, hassignee⟩⟩, rfl⟩

/-- A sheet leaves those of others as they are. -/
theorem sheetOf_saveAnswers_of_ne (h : ∀ y ∈ answers, y.assignee ≠ assignee) :
    (t.saveAnswers answers).sheetOf id assignee = t.sheetOf id assignee := by
  unfold sheetOf
  rw [filter_saveAnswers]
  intro y hy z hz
  have hassignee : z.assignee = y.assignee := congrArg (fun p => p.2.1) hz
  exact decide_eq_false fun hown => h y hy (hassignee.symm.trans hown.2)

/-- The sheets of the listed bloggers who take part in a campaign. -/
def Collects (t : Tables) (id : CampaignId) (bloggers : List BloggerId)
    (sheets : Keyed BloggerId AnswerSheet) : Prop :=
  ∀ c sheet, sheets.get? c = some sheet ↔ c ∈ bloggers ∧ ∃ p ∈ t.participants,
    p.campaign = id ∧ p.blogger = c ∧ sheet = t.sheetOf id p.assignee

theorem Collects.listed {bloggers : List BloggerId} {sheets : Keyed BloggerId AnswerSheet}
    (h : t.Collects id bloggers sheets) {c : BloggerId} : (sheets.get? c).isSome ↔
      c ∈ bloggers ∧ ∃ a ∈ t.assignees, a.campaign = id ∧ a.blogger = c := by
  rw [Option.isSome_iff_exists]
  constructor
  · rintro ⟨sheet, hsheet⟩
    obtain ⟨hlisted, p, hp, hid, hb, _⟩ := (h c sheet).mp hsheet
    obtain ⟨a, ha, rfl⟩ := List.mem_map.mp hp
    exact ⟨hlisted, a, ha, hid, hb⟩
  · rintro ⟨hlisted, a, ha, hid, hb⟩
    exact ⟨_, (h c _).mpr ⟨hlisted, a.participant, List.mem_map_of_mem ha, hid, hb, rfl⟩⟩

/-- Nobody else takes part when an invitation is accepted. -/
theorem participants_accept (hd : (t.assignees.map Assignee.id).Nodup) {a : Assignee}
    (ha : a ∈ t.assignees) (sheet : List Answer) (m : Move) :
    ((t.saveAnswers sheet).putAssignee (a.after m)).participants = t.participants := by
  rw [saveAnswers_eq]
  exact participants_putAssignee hd ha (a.after_participant m)

end Tables

/-! ## What is read -/

/-- The sheets with an answer on the one of its blogger. -/
def filed (bloggers : Keyed AssigneeId BloggerId) (sheets : Keyed BloggerId AnswerSheet)
    (x : Answer) : Keyed BloggerId AnswerSheet :=
  match bloggers.get? x.assignee with
  | none => sheets
  | some blogger =>
    match sheets.get? blogger with
    | none => sheets
    | some sheet => sheets.insert blogger (sheet.insert x.question x)

section Filed

variable {bloggers : Keyed AssigneeId BloggerId} {sheets : Keyed BloggerId AnswerSheet}
  {c : BloggerId}

theorem filed_get? (x : Answer) : (filed bloggers sheets x).get? c = (sheets.get? c).map fun sheet =>
    if bloggers.get? x.assignee = some c then sheet.insert x.question x else sheet := by
  unfold filed
  cases hblogger : bloggers.get? x.assignee with
  | none => simp
  | some blogger =>
    cases hsheet : sheets.get? blogger with
    | none =>
      simp only [hsheet]
      by_cases hc : blogger = c
      · subst hc; rw [hsheet]; rfl
      · simp [hc]
    | some sheet =>
      simp only [hsheet]
      rw [Keyed.get?_insert]
      by_cases hc : c = blogger
      · subst hc; simp [hsheet]
      · simp [hc, Ne.symm hc]

/-- Each sheet collects the answers of its blogger, whatever others lie between them. -/
theorem foldl_filed_get? (bloggers : Keyed AssigneeId BloggerId) (sheets : Keyed BloggerId AnswerSheet)
    (answers : List Answer) :
    (answers.foldl (filed bloggers) sheets).get? c = (sheets.get? c).map fun sheet =>
      (answers.filter fun x => bloggers.get? x.assignee = some c).foldl
        (fun sheet x => sheet.insert x.question x) sheet := by
  induction answers generalizing sheets with
  | nil => simp
  | cons x rest ih =>
    rw [List.foldl_cons, ih, filed_get?, Option.map_map]
    congr 1
    funext sheet
    simp only [Function.comp]
    by_cases hx : bloggers.get? x.assignee = some c
    · rw [if_pos hx, List.filter_cons, if_pos (decide_eq_true hx), List.foldl_cons]
    · rw [if_neg hx, List.filter_cons, if_neg (by simpa using hx)]

end Filed

theorem answerSheets_get? {as : List Assignee} {answers : List Answer}
    (hids : (as.map Assignee.id).Nodup) (hbloggers : (as.map Assignee.blogger).Nodup)
    {c : BloggerId} {sheet : AnswerSheet} :
    (answerSheets as answers).get? c = some sheet ↔ ∃ a ∈ as, a.blogger = c ∧
      sheet = Keyed.ofList ((answers.filter fun x => x.assignee = a.id).map fun x =>
        (x.question, x)) := by
  let bloggers : Keyed AssigneeId BloggerId := Keyed.ofList (as.map fun a => (a.id, a.blogger))
  let empty : Keyed BloggerId AnswerSheet := Keyed.ofList (as.map fun a => (a.blogger, {}))
  have hnames : ∀ k b, bloggers.get? k = some b ↔ ∃ a ∈ as, a.id = k ∧ a.blogger = b := by
    intro k b
    rw [Keyed.get?_eq_some_iff, Keyed.ofList_entries (by rw [List.map_map]; exact hids)]
    simp
  have hempty : ∀ s, empty.get? c = some s ↔ ∃ a ∈ as, a.blogger = c ∧ {} = s := by
    intro s
    rw [Keyed.get?_eq_some_iff, Keyed.ofList_entries (by rw [List.map_map]; exact hbloggers)]
    simp
  have hown : ∀ a ∈ as, (answers.filter fun x => bloggers.get? x.assignee = some a.blogger) =
      answers.filter fun x => x.assignee = a.id := by
    intro a ha
    refine List.filter_congr fun x _ => decide_eq_decide.mpr ?_
    rw [hnames]
    constructor
    · rintro ⟨y, hy, hid, hblogger⟩
      rw [← hid, List.inj_on_of_nodup_map hbloggers hy ha hblogger]
    · exact fun hid => ⟨a, ha, hid.symm, rfl⟩
  have hread : (answerSheets as answers).get? c = _ :=
    foldl_filed_get? bloggers empty answers
  rw [hread, Option.map_eq_some_iff]
  constructor
  · rintro ⟨s, hs, rfl⟩
    obtain ⟨a, ha, rfl, rfl⟩ := (hempty s).mp hs
    refine ⟨a, ha, rfl, ?_⟩
    rw [hown a ha, Keyed.ofList, List.foldl_map]
  · rintro ⟨a, ha, rfl, rfl⟩
    refine ⟨{}, (hempty _).mpr ⟨a, ha, rfl, rfl⟩, ?_⟩
    rw [hown a ha, Keyed.ofList, List.foldl_map]

/-- Every listed blogger who takes part in the campaign has a sheet, and nobody else has one. -/
theorem ask_answers {w : World Memory} (h : Stored w.unit) (o : Occasion) (id : CampaignId)
    (bloggers : List BloggerId) :
    ∃ sheets, (o.service.ask (.answers id bloggers) w).1 = .ok (.sheets sheets) ∧
      w.state.tables.Collects id bloggers sheets := by
  let t := w.state.tables
  let there := t.among id bloggers none
  let answers := t.answers.filter fun x => x.campaign = id && (there.map Assignee.id).contains x.assignee
  have hids : (there.map Assignee.id).Nodup :=
    h.sound.assignees.nodup.sublist ((List.filter_sublist.trans List.filter_sublist).map _)
  have hbloggers : (there.map Assignee.blogger).Nodup := h.among_bloggers id bloggers none
  have hthere : ∀ a, a ∈ there ↔ a ∈ t.assignees ∧ a.campaign = id ∧ a.blogger ∈ bloggers := by
    intro a
    simp [there, Tables.mem_among]
  have hown : ∀ a ∈ there, (answers.filter fun x => x.assignee = a.id) =
      t.answers.filter fun x => x.campaign = id ∧ x.assignee = a.id := by
    intro a ha
    rw [List.filter_filter]
    refine List.filter_congr fun x _ => ?_
    by_cases hx : x.assignee = a.id
    · have hmem : x.assignee ∈ there.map Assignee.id := by rw [hx]; exact List.mem_map_of_mem ha
      simp [hx, hx ▸ hmem]
    · simp [hx]
  refine ⟨answerSheets there answers, rfl, fun c sheet => ?_⟩
  rw [answerSheets_get? hids hbloggers]
  constructor
  · rintro ⟨a, ha, rfl, rfl⟩
    obtain ⟨hmem, hid, hlisted⟩ := (hthere a).mp ha
    exact ⟨hlisted, a.participant, List.mem_map_of_mem hmem, hid, rfl, by rw [hown a ha]; rfl⟩
  · rintro ⟨hlisted, p, hp, hid, rfl, rfl⟩
    obtain ⟨a, hmem, rfl⟩ := List.mem_map.mp hp
    have ha := (hthere a).mpr ⟨hmem, hid, hlisted⟩
    exact ⟨a, ha, rfl, by rw [hown a ha]; rfl⟩

/-! ## An invitation that is accepted -/

section Accepted

variable {id : CampaignId} {b : BloggerId} {given : Keyed QuestionId String} {q : Questionnaire}

/-- Whoever accepts is moved, and the sheet is saved. -/
theorem accept_ends {u : World Tables} (h : Sound u)
    (hq : u.state.questionnaires.get? id = some q) :
    Ends (Store.memory.answerInvitation id b true given) u (fun _ u' => ∃ a ∈ u.state.assignees,
      a.campaign = id ∧ a.blogger = b ∧ ∃ m sheet, Answer.sheet q a.id given = .ok sheet ∧
        u'.state = (u.state.saveAnswers sheet).putAssignee (a.after m)) fun _ => True := by
  refine .bind (Call.getCampaign_ends (fun c hc => ?_) fun _ => trivial)
  refine .bind (Call.findQuestionnaire_ends ?_)
  refine .bind (Call.getAssignee_ends (fun a ha hid hb => ?_) fun _ => trivial)
  refine .bind (Task.obey_ends (fun a' ha' => ?_) fun _ _ => trivial)
  obtain ⟨_, rfl⟩ := Assignee.move_ok.mp ha'
  rw [hq, Assignee.after_id]
  refine .bind (.bind (Task.obey_ends (fun sheet hsheet => ?_) fun _ _ => trivial))
  refine Call.saveAnswers_ends (.bind (Call.updateAssignee_ends (h.saveAnswers sheet) ?_ (.pure ?_)))
  · rw [Assignee.after_id, Tables.saveAnswers_eq]; exact List.mem_map_of_mem ha
  · exact ⟨a, ha, hid, hb, _, sheet, hsheet, rfl⟩

theorem run_accepted {w : World Memory} (h : Sound w.unit) (o : Occasion)
    (hq : w.state.tables.questionnaires.get? id = some q) :
    Ends (o.service.run (.answerInvitation id b true given)) w (fun _ w' =>
      ∃ a ∈ w.state.tables.assignees, a.campaign = id ∧ a.blogger = b ∧ ∃ m sheet,
        Answer.sheet q a.id given = .ok sheet ∧
        w'.state.tables = (w.state.tables.saveAnswers sheet).putAssignee (a.after m))
      fun _ => True :=
  .map ((accept_ends h hq).transact.imp fun _ _ hdone => hdone)

/-- What is read of the answers in a campaign, before and after blogger `b` accepts with answers `given`:
every listed blogger who takes part has a sheet, that of `b` has the answers, and the others are as they
were. -/
structure Collected (t : Tables) (id : CampaignId) (b : BloggerId) (q : Questionnaire)
    (given : Keyed QuestionId String) (bloggers : List BloggerId)
    (before after : Keyed BloggerId AnswerSheet) : Prop where
  listed : ∀ c, (after.get? c).isSome ↔
    c ∈ bloggers ∧ ∃ a ∈ t.assignees, a.campaign = id ∧ a.blogger = c
  own : b ∈ bloggers → ∃ sheet, after.get? b = some sheet ∧ ∀ k ∈ q.questionIds,
    ∃ x, sheet.get? k = some x ∧ x.question = k ∧ given.get? k = some x.content
  others : ∀ c, c ≠ b → after.get? c = before.get? c

/-- The questions of a sheet that fills the questionnaire of its campaign are filed under their own
places. -/
theorem Answer.Fills.place_mem {a : AssigneeId} {sheet : List Answer} (h : Fills q a given sheet)
    (hid : q.campaign = id) {k : QuestionId} (hk : k ∈ q.questionIds) :
    ∃ x ∈ sheet, x.place = (id, a, k) ∧ given.get? k = some x.content := by
  rw [← h.questions] at hk
  obtain ⟨x, hx, rfl⟩ := List.mem_map.mp hk
  obtain ⟨hcampaign, hassignee, hcontent⟩ := h.answers x hx
  exact ⟨x, hx, by rw [← hid, ← hcampaign, ← hassignee]; rfl, hcontent⟩

theorem Answer.Fills.places_nodup {a : AssigneeId} {sheet : List Answer}
    (h : Fills q a given sheet) (hd : q.questionIds.Nodup) : (sheet.map Answer.place).Nodup := by
  rw [← h.questions] at hd
  refine List.Nodup.of_map (fun p => p.2.2) ?_
  rw [List.map_map]
  exact hd

theorem collected_of_accepted {w w' : World Memory} {a : Assignee} {m : Move} {sheet : List Answer}
    (h : Stored w.unit) (h' : Stored w'.unit) (hq : w.state.tables.questionnaires.get? id = some q)
    (ha : a ∈ w.state.tables.assignees) (hid : a.campaign = id) (hb : a.blogger = b)
    (hsheet : Answer.sheet q a.id given = .ok sheet)
    (hw : w'.state.tables = (w.state.tables.saveAnswers sheet).putAssignee (a.after m))
    {bloggers : List BloggerId} {before after : Keyed BloggerId AnswerSheet}
    (hbefore : w.state.tables.Collects id bloggers before)
    (hafter : w'.state.tables.Collects id bloggers after) :
    Collected w'.state.tables id b q given bloggers before after := by
  have hfills := Answer.fills_of_sheet hsheet
  have hcampaign : q.campaign = id := (h.sound.questionnaires id q hq).1
  have hanswers : w'.state.tables.answers = (w.state.tables.saveAnswers sheet).answers := by
    rw [hw]; rfl
  have hparticipants : w'.state.tables.participants = w.state.tables.participants :=
    hw ▸ Tables.participants_accept h.sound.assignees.nodup ha sheet m
  refine ⟨fun c => hafter.listed, fun hlisted => ?_, fun c hc => ?_⟩
  · have hmem : a.participant ∈ w'.state.tables.participants := by
      rw [hparticipants]; exact List.mem_map_of_mem ha
    refine ⟨_, (hafter b _).mpr ⟨hlisted, _, hmem, hid, hb, rfl⟩, fun k hk => ?_⟩
    obtain ⟨x, hx, hplace, hcontent⟩ := hfills.place_mem hcampaign hk
    refine ⟨x, (Tables.sheetOf_get? h'.owned.places).mpr ⟨?_, hplace⟩, ?_, hcontent⟩
    · change x ∈ w'.state.tables.answers
      rw [hanswers]
      exact (Tables.mem_saveAnswers_iff (hfills.places_nodup (h.questionIds hq).nodup)).mpr (.inl hx)
    · exact congrArg (fun p => p.2.2) hplace
  · ext s
    rw [hafter, hbefore, hparticipants]
    refine and_congr_right fun _ => exists_congr fun p => and_congr_right fun hp => ?_
    refine and_congr_right fun _ => and_congr_right fun hpc => ?_
    have hne : a.id ≠ p.assignee := fun hap => hc <| by
      obtain ⟨x, hx, rfl⟩ := List.mem_map.mp hp
      rw [← hpc, ← hb, List.inj_on_of_nodup_map h.sound.assignees.nodup ha hx hap]
      rfl
    have hsame : w'.state.tables.sheetOf id p.assignee =
        (w.state.tables.saveAnswers sheet).sheetOf id p.assignee := by
      unfold Tables.sheetOf; rw [hanswers]
    rw [hsame, Tables.sheetOf_saveAnswers_of_ne fun y hy => (hfills.answers y hy).2.1 ▸ hne]

end Accepted

/-- Where questions differ, answers are accepted exactly if they are answers to all of them and to
nothing else, and the sheet has them in order. After every history, when a blogger accepts an invitation
to a campaign with a questionnaire, the answers of any bloggers can be read: each of those who takes part
has a sheet, that of the blogger has the answers, and the others are as they were. -/
theorem sheets_read_back :
    (∀ (q : Questionnaire) (a : AssigneeId) (given : Keyed QuestionId String), q.questionIds.Nodup →
      ((∃ sheet, Answer.sheet q a given = .ok sheet) ↔ q.AnsweredBy given) ∧
      ∀ sheet, Answer.sheet q a given = .ok sheet → Answer.Fills q a given sheet) ∧
    ∀ (history : List Visit) (v : Visit) (id : CampaignId) (b : BloggerId)
      (given : Keyed QuestionId String) (q : Questionnaire) (outcome : Outcome),
      v.command = .answerInvitation id b true given →
      (v.service.run v.command (World.start.after history)).1 = .ok outcome →
      (World.start.after history).state.tables.questionnaires.get? id = some q →
      ∀ (o o' : Occasion) (bloggers : List BloggerId), ∃ before after,
        (o.service.ask (.answers id bloggers) (World.start.after history)).1 =
          .ok (.sheets before) ∧
        (o'.service.ask (.answers id bloggers) (World.start.after (history ++ [v]))).1 =
          .ok (.sheets after) ∧
        Collected (World.start.after (history ++ [v])).state.tables id b q given bloggers before
          after := by
  refine ⟨fun q a given hd => ⟨Answer.sheet_isOk_iff hd, fun _ => Answer.fills_of_sheet⟩, ?_⟩
  intro history v id b given q outcome hv hrun hq o o' bloggers
  have h := stored_after history
  have h' := stored_after (history ++ [v])
  obtain ⟨before, hbefore, hreads⟩ := ask_answers h o id bloggers
  obtain ⟨after, hafter, hreads'⟩ := ask_answers h' o' id bloggers
  refine ⟨before, after, hbefore, hafter, ?_⟩
  rw [hv] at hrun
  obtain ⟨a, ha, hid, hb, m, sheet, hsheet, hstate⟩ :=
    (run_accepted h.sound v.toOccasion hq).ok (Prod.ext hrun rfl)
  have hafterwards : (World.start.after (history ++ [v])).state.tables =
      ((World.start.after history).state.tables.saveAnswers sheet).putAssignee (a.after m) := by
    rw [World.after_concat, Visit.apply, hv]
    exact hstate
  exact collected_of_accepted h h' hq ha hid hb hsheet hafterwards hreads hreads'

/-- The other assignee accepts the invitation and answers both questions. -/
def acceptingVisit : Visit :=
  visitAt 4 (.answerInvitation ⟨"id-0001"⟩ ⟨"other"⟩ true
    (Keyed.ofList [(⟨"id-0005"⟩, "two"), (⟨"id-0006"⟩, "yes")]))

theorem sheets_read_back_of_examinedCourse : ∃ q : Questionnaire,
    q.AnsweredBy (Keyed.ofList [(⟨"id-0005"⟩, "two"), (⟨"id-0006"⟩, "yes")]) ∧
    ∃ before after,
      (anotherDay.service.ask (.answers ⟨"id-0001"⟩ [⟨"other"⟩, ⟨"blogger"⟩, ⟨"nobody"⟩])
        (World.start.after examinedCourse)).1 = .ok (.sheets before) ∧
      (anotherDay.service.ask (.answers ⟨"id-0001"⟩ [⟨"other"⟩, ⟨"blogger"⟩, ⟨"nobody"⟩])
        (World.start.after (examinedCourse ++ [acceptingVisit]))).1 = .ok (.sheets after) ∧
      Collected (World.start.after (examinedCourse ++ [acceptingVisit])).state.tables ⟨"id-0001"⟩
        ⟨"other"⟩ q (Keyed.ofList [(⟨"id-0005"⟩, "two"), (⟨"id-0006"⟩, "yes")])
        [⟨"other"⟩, ⟨"blogger"⟩, ⟨"nobody"⟩] before after := by
  let given : Keyed QuestionId String :=
    Keyed.ofList [(⟨"id-0005"⟩, "two"), (⟨"id-0006"⟩, "yes")]
  have hasked : ((World.start.after examinedCourse).state.tables.questionnaires.get?
      ⟨"id-0001"⟩).map (fun q => (q.questionIds, (Answer.sheet q ⟨"id-0004"⟩ given).isOk)) =
      some ([⟨"id-0005"⟩, ⟨"id-0006"⟩], true) := by decide +kernel
  have hrun : (acceptingVisit.service.run acceptingVisit.command
      (World.start.after examinedCourse)).1.isOk = true := by decide +kernel
  obtain ⟨q, hq, hfound⟩ := Option.map_eq_some_iff.mp hasked
  obtain ⟨hids, hsheet⟩ := Prod.mk.inj hfound
  obtain ⟨outcome, hrun⟩ := Except.ok_of_isOk hrun
  have hd : q.questionIds.Nodup := by rw [hids]; decide
  have haccepted := ((sheets_read_back.1 q ⟨"id-0004"⟩ given hd).1).mp (Except.ok_of_isOk hsheet)
  exact ⟨q, haccepted, sheets_read_back.2 examinedCourse acceptingVisit ⟨"id-0001"⟩ ⟨"other"⟩ given q
    outcome rfl hrun hq anotherDay anotherDay _⟩

end Sponsorship
