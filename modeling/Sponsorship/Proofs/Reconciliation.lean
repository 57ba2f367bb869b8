import Sponsorship.Proofs.Numbered

/-!
# Sponsorship.Proofs.Reconciliation

How the questions of a questionnaire come about from a list of inputs, whatever questions it had.

* `QuestionInput.Names`, `QuestionInput.kept?`: the identifier an input asks for, and the one it
  gets unless it gets a new one.
* `QuestionInput.questions`: the questions for inputs, written down position by position.
* `Questionnaire.Accepts`: what an input list has to be like.
* `QuestionInput.settle`: what the walk over the inputs does with one of them (`settle_kept`,
  `settle_posed`, `settle_unknown`, `settle_unfit`), and from it what a whole walk does
  (`reconciled_admitted`, `reconciled_refused`).
* `Questionnaire.reconcile_questions`: when a questionnaire is reconciled, what it is then, and how
  it fails otherwise.
-/

namespace Sponsorship

/-! ## Inputs -/

namespace QuestionInput

/-- The input asks for the question with this identifier; a blank identifier asks for none. -/
def Names (i : QuestionInput) (id : QuestionId) : Prop := i.id = some id ∧ id.text ≠ ""

/-- The question that an input describes. -/
def under (i : QuestionInput) (id : QuestionId) : Question :=
  { id, kind := i.kind, title := i.title, imageUrl := i.imageUrl, options := i.options }

/-- There is a title, and a choice has options that differ while a free text has none. -/
def Fits (i : QuestionInput) : Prop :=
  i.title ≠ "" ∧
    match i.kind with
    | .radio => i.options ≠ [] ∧ i.options.Nodup
    | .text => i.options = []

/-- The identifier that an input keeps: the one it names, unless an input before names it too. -/
def kept? (before : List QuestionInput) (i : QuestionInput) : Option QuestionId :=
  (Id.given? i.id).filter fun id => before.all fun j => Id.given? j.id ≠ some id

/-- How many of the inputs keep no identifier. -/
def posed (before : List QuestionInput) : List QuestionInput → Nat
  | [] => 0
  | i :: rest => (if (i.kept? before).isNone then 1 else 0) + posed (before ++ [i]) rest

/-- The questions for inputs when `before` were met already and `ids` are left. -/
def questions (ids : Ids) (before : List QuestionInput) : List QuestionInput → List Question
  | [] => []
  | i :: rest =>
    match i.kept? before with
    | some id => i.under id :: questions ids (before ++ [i]) rest
    | none =>
      i.under (ids.next : QuestionId × Ids).1 ::
        questions (ids.next : QuestionId × Ids).2 (before ++ [i]) rest

variable {i j : QuestionInput} {id : QuestionId} {before inputs : List QuestionInput}

theorem given?_eq_some_iff : Id.given? i.id = some id ↔ i.Names id := by
  unfold Id.given? Names
  rw [Option.filter_eq_some_iff, Bool.not_eq_true', Id.isBlank_eq_false]

theorem kept?_eq_some_iff :
    i.kept? before = some id ↔ i.Names id ∧ ∀ j ∈ before, ¬ j.Names id := by
  unfold kept?
  rw [Option.filter_eq_some_iff, given?_eq_some_iff, List.all_eq_true]
  simp only [decide_not, Bool.not_eq_true', decide_eq_false_iff_not, given?_eq_some_iff]

theorem kept?_eq_none_iff :
    i.kept? before = none ↔ ∀ id, i.Names id → ∃ j ∈ before, j.Names id := by
  rw [Option.eq_none_iff_forall_ne_some]
  simp only [Ne, kept?_eq_some_iff, not_and, not_forall, not_not, exists_prop]

theorem posed_cons_of_kept {i : QuestionInput} (h : i.kept? before = some id) :
    posed before (i :: inputs) = posed (before ++ [i]) inputs := by
  rw [posed, h]
  simp

theorem posed_cons_of_none {i : QuestionInput} (h : i.kept? before = none) :
    posed before (i :: inputs) = posed (before ++ [i]) inputs + 1 := by
  rw [posed, h, Option.isNone_none, if_pos rfl, Nat.add_comm]

end QuestionInput

/-! ## The questions, position by position -/

namespace QuestionInput

variable {before pre post inputs : List QuestionInput} {ids : Ids} {i : QuestionInput}
  {id : QuestionId}

theorem length_questions : (questions ids before inputs).length = inputs.length := by
  induction inputs generalizing ids before with
  | nil => rfl
  | cons i rest ih =>
    unfold questions
    cases i.kept? before with
    | none => simp only [List.length_cons, ih]
    | some id => simp only [List.length_cons, ih]

/-- The question at a position is the one its input describes. It has the identifier that the input
keeps, or else the one after those that the inputs before it took. -/
theorem questions_getElem? :
    (questions ids before (pre ++ i :: post))[pre.length]? =
      some (i.under
        ((i.kept? (before ++ pre)).getD ⟨ids.name (ids.issued + posed before pre)⟩)) := by
  induction pre generalizing ids before with
  | nil =>
    rw [List.nil_append, List.append_nil]
    unfold questions
    cases h : i.kept? before with
    | none => rfl
    | some id => rfl
  | cons p pre ih =>
    have hpre : before ++ p :: pre = before ++ [p] ++ pre := by simp
    rw [List.cons_append, List.length_cons, hpre]
    unfold questions
    cases h : p.kept? before with
    | none =>
      simp only [List.getElem?_cons_succ]
      have hnumber : (ids.next : QuestionId × Ids).2.issued + posed (before ++ [p]) pre =
          ids.issued + posed before (p :: pre) := by
        rw [posed_cons_of_none h]
        simp only [Ids.next]
        omega
      rw [ih, hnumber]
      rfl
    | some id =>
      simp only [List.getElem?_cons_succ]
      rw [ih, posed_cons_of_kept h]

/-- A question has an identifier that no input before asked for, or a new one. -/
theorem mem_questions (h : id ∈ (questions ids before inputs).map Question.id) :
    ((∃ i ∈ inputs, i.Names id) ∧ ∀ j ∈ before, ¬ j.Names id) ∨
      ∃ n, ids.issued ≤ n ∧ id = ⟨ids.name n⟩ := by
  induction inputs generalizing ids before with
  | nil => cases h
  | cons i rest ih =>
    have hlater : ∀ {k : QuestionId}, ((∃ j ∈ rest, j.Names k) ∧ ∀ j ∈ before ++ [i], ¬ j.Names k) →
        (∃ j ∈ i :: rest, j.Names k) ∧ ∀ j ∈ before, ¬ j.Names k := by
      rintro k ⟨⟨j, hj, hk⟩, hnot⟩
      exact ⟨⟨j, List.mem_cons_of_mem i hj, hk⟩, fun x hx => hnot x (List.mem_append_left [i] hx)⟩
    unfold questions at h
    cases hk : i.kept? before with
    | some k =>
      simp only [hk, List.map_cons] at h
      rcases List.mem_cons.mp h with rfl | h
      · obtain ⟨hnames, hnot⟩ := kept?_eq_some_iff.mp hk
        exact .inl ⟨⟨i, List.mem_cons_self, hnames⟩, hnot⟩
      · exact (ih h).imp_left hlater
    | none =>
      simp only [hk, List.map_cons] at h
      rcases List.mem_cons.mp h with rfl | h
      · exact .inr ⟨ids.issued, Nat.le_refl _, rfl⟩
      · rcases ih h with hold | ⟨n, hn, hid⟩
        · exact .inl (hlater hold)
        · exact .inr ⟨n, Nat.le_of_succ_le hn, hid⟩

/-- Whatever an input names, a question has, unless an input before named it. -/
theorem mem_questions_of_named (hi : i ∈ inputs) (hid : i.Names id)
    (hnew : ∀ j ∈ before, ¬ j.Names id) : id ∈ (questions ids before inputs).map Question.id := by
  induction inputs generalizing ids before with
  | nil => cases hi
  | cons x rest ih =>
    unfold questions
    by_cases hx : x.Names id
    · rw [kept?_eq_some_iff.mpr ⟨hx, hnew⟩]
      exact List.mem_cons_self
    · have hrest : i ∈ rest := by
        rcases List.mem_cons.mp hi with rfl | hi
        · exact absurd hid hx
        · exact hi
      have hnew' : ∀ j ∈ before ++ [x], ¬ j.Names id := by
        intro j hj
        rcases List.mem_append.mp hj with hj | hj
        · exact hnew j hj
        · rw [List.mem_singleton.mp hj]; exact hx
      cases x.kept? before with
      | none => exact List.mem_cons_of_mem _ (ih hrest hnew')
      | some k => exact List.mem_cons_of_mem _ (ih hrest hnew')

end QuestionInput

/-! ## New identifiers -/

/-- The identifiers to come differ from each other and from those that are in use. -/
structure Ids.NewTo {kind : Named} (ids : Ids) (used : List (Id kind)) : Prop where
  distinct : ∀ m n, ids.issued ≤ m → ids.issued ≤ n → ids.name m = ids.name n → m = n
  unused : ∀ n, ids.issued ≤ n → (⟨ids.name n⟩ : Id kind) ∉ used

theorem Ids.NewTo.next {kind : Named} {ids : Ids} {used : List (Id kind)} (h : ids.NewTo used) :
    (ids.next : Id kind × Ids).2.NewTo used :=
  ⟨fun m n hm hn => h.distinct m n (Nat.le_of_succ_le hm) (Nat.le_of_succ_le hn),
    fun n hn => h.unused n (Nat.le_of_succ_le hn)⟩

namespace QuestionInput

variable {before inputs : List QuestionInput} {ids : Ids} {used : List QuestionId}

/-- No two questions have one identifier: a kept one is not asked for again, and a new one is
neither in use nor given twice. -/
theorem questions_nodup (hids : ids.NewTo used)
    (hknown : ∀ i ∈ inputs, ∀ id, i.Names id → id ∈ used) :
    ((questions ids before inputs).map Question.id).Nodup := by
  induction inputs generalizing ids before with
  | nil => exact List.nodup_nil
  | cons i rest ih =>
    have hrest : ∀ j ∈ rest, ∀ id, j.Names id → id ∈ used := fun j hj =>
      hknown j (List.mem_cons_of_mem i hj)
    unfold questions
    cases hk : i.kept? before with
    | some id =>
      simp only [List.map_cons, List.nodup_cons]
      refine ⟨fun hmem => ?_, ih hids hrest⟩
      have hid := (kept?_eq_some_iff.mp hk).1
      rcases mem_questions hmem with ⟨_, hnot⟩ | ⟨n, hn, hnew⟩
      · exact hnot i (List.mem_append_right before List.mem_cons_self) hid
      · change id = _ at hnew
        exact hids.unused n hn (hnew ▸ hknown i List.mem_cons_self id hid)
    | none =>
      simp only [List.map_cons, List.nodup_cons]
      refine ⟨fun hmem => ?_, ih hids.next hrest⟩
      rcases mem_questions hmem with ⟨⟨j, hj, hid⟩, _⟩ | ⟨n, hn, hnew⟩
      · exact hids.unused ids.issued (Nat.le_refl _) (hrest j hj _ hid)
      · have htext : ids.name ids.issued = ids.name n := congrArg Id.text hnew
        have hlater : ids.issued + 1 ≤ n := hn
        have := hids.distinct ids.issued n (Nat.le_refl _) (by omega) htext
        omega

end QuestionInput

/-! ## One input -/

/-- What the input names is a question of the questionnaire, and what it describes is a question. -/
structure Questionnaire.Admits (q : Questionnaire) (i : QuestionInput) : Prop where
  known : ∀ id, i.Names id → id ∈ q.questionIds
  fits : i.Fits

/-- The questions of a questionnaire by their identifiers; of two with one the later counts. -/
def Questionnaire.byId (q : Questionnaire) : Keyed QuestionId Question :=
  Keyed.ofList (q.questions.map fun x => (x.id, x))

/-- `claimed` are the identifiers that the inputs before name. -/
def ClaimedBy (before : List QuestionInput) (claimed : List QuestionId) : Prop :=
  ∀ id, id ∈ claimed ↔ ∃ j ∈ before, j.Names id

namespace QuestionInput

/-- The question for an input when the inputs before it named `claimed`. -/
def settle (old : Keyed QuestionId Question) (claimed : List QuestionId) (i : QuestionInput) :
    Minting Question :=
  match Id.given? i.id with
  | none => i.pose
  | some id =>
    if claimed.contains id then i.pose
    else
      match old.get? id with
      | none => throw (.notFound (.question id))
      | some q => Minting.obey (q.revise i)

/-- The identifiers that are named after an input. -/
def claim (claimed : List QuestionId) (i : QuestionInput) : List QuestionId :=
  match Id.given? i.id with
  | none => claimed
  | some id => if claimed.contains id then claimed else id :: claimed

end QuestionInput

/-- The names met so far and that of the next input are the names met then. -/
theorem ClaimedBy.claim {before : List QuestionInput} {claimed : List QuestionId}
    (h : ClaimedBy before claimed) (i : QuestionInput) :
    ClaimedBy (before ++ [i]) (i.claim claimed) := by
  intro id
  have hi : (∃ j ∈ before ++ [i], j.Names id) ↔ id ∈ claimed ∨ i.Names id := by
    rw [h id]
    simp only [List.mem_append, List.mem_singleton]
    constructor
    · rintro ⟨j, hj | rfl, hid⟩
      · exact .inl ⟨j, hj, hid⟩
      · exact .inr hid
    · rintro (⟨j, hj, hid⟩ | hid)
      · exact ⟨j, .inl hj, hid⟩
      · exact ⟨i, .inr rfl, hid⟩
  rw [hi, ← QuestionInput.given?_eq_some_iff]
  unfold QuestionInput.claim
  cases Id.given? i.id with
  | none => simp
  | some k =>
    dsimp only
    rw [Option.some.injEq]
    split
    · rename_i hk
      have hmem := List.contains_iff_mem.mp hk
      constructor
      · exact .inl
      · rintro (hid | rfl)
        · exact hid
        · exact hmem
    · rw [List.mem_cons, or_comm, eq_comm]

theorem Questionnaire.byId_eq_none_iff {q : Questionnaire} {id : QuestionId} :
    q.byId.get? id = none ↔ id ∉ q.questionIds := by
  unfold byId questionIds
  rw [Keyed.get?_ofList_eq_none_iff, List.map_map]
  rfl

namespace Questionnaire

variable {q : Questionnaire} {before : List QuestionInput} {claimed : List QuestionId}
  {i : QuestionInput} {id : QuestionId} {ids : Ids} {inputs : List QuestionInput}

theorem reconciled_cons (old : Keyed QuestionId Question) :
    reconciled old claimed (i :: inputs) = (do
      return (← i.settle old claimed) :: (← reconciled old (i.claim claimed) inputs)) := by
  unfold QuestionInput.settle QuestionInput.claim
  rw [reconciled]
  cases Id.given? i.id with
  | none => rfl
  | some id =>
    dsimp only
    split
    · rfl
    · cases old.get? id <;> rfl

/-- A question is made with the next identifier. -/
theorem pose_run : i.pose ids =
    ((Question.create (ids.next : QuestionId × Ids).1 i.kind i.title i.imageUrl i.options).mapError
      Fault.validation, (ids.next : QuestionId × Ids).2) := rfl

theorem create_under (h : i.Fits) (id : QuestionId) :
    Question.create id i.kind i.title i.imageUrl i.options = .ok (i.under id) :=
  Question.create_ok.mpr ⟨h.1, Question.checkOptions_ok.mpr h.2, rfl⟩

theorem revise_under (h : i.Fits) (o : Question) : o.revise i = .ok (i.under o.id) :=
  Question.revise_ok.mpr ⟨h.1, Question.checkOptions_ok.mpr h.2, rfl⟩

/-- What a questionnaire has under an identifier it knows. -/
theorem byId_of_mem (h : id ∈ q.questionIds) : ∃ o, q.byId.get? id = some o ∧ o.id = id := by
  cases ho : q.byId.get? id with
  | none => exact absurd h (byId_eq_none_iff.mp ho)
  | some o => exact ⟨o, rfl, (byId_ok ho).1⟩

/-- An input that keeps an identifier revises the question that has it. -/
theorem settle_kept (hc : ClaimedBy before claimed) (hi : q.Admits i)
    (hk : i.kept? before = some id) :
    i.settle q.byId claimed ids = (.ok (i.under id), ids) := by
  obtain ⟨hid, hnew⟩ := QuestionInput.kept?_eq_some_iff.mp hk
  obtain ⟨o, ho, hoid⟩ := byId_of_mem (hi.known id hid)
  have hfree : ¬ claimed.contains id = true := by
    rw [List.contains_iff_mem, hc id]
    rintro ⟨j, hj, hjid⟩
    exact hnew j hj hjid
  unfold QuestionInput.settle
  rw [QuestionInput.given?_eq_some_iff.mpr hid]
  dsimp only
  rw [if_neg hfree, ho]
  dsimp only
  rw [revise_under hi.fits, hoid]
  rfl

/-- An input that keeps none makes a question. -/
theorem settle_posed (hc : ClaimedBy before claimed) (hfit : i.Fits)
    (hk : i.kept? before = none) :
    i.settle q.byId claimed ids =
      (.ok (i.under (ids.next : QuestionId × Ids).1), (ids.next : QuestionId × Ids).2) := by
  have hposed : i.pose ids =
      (.ok (i.under (ids.next : QuestionId × Ids).1), (ids.next : QuestionId × Ids).2) := by
    rw [pose_run, create_under hfit]
    rfl
  unfold QuestionInput.settle
  cases hgiven : Id.given? i.id with
  | none => exact hposed
  | some id =>
    have htaken : claimed.contains id = true := by
      rw [List.contains_iff_mem, hc id]
      exact QuestionInput.kept?_eq_none_iff.mp hk id (QuestionInput.given?_eq_some_iff.mp hgiven)
    dsimp only
    rw [if_pos htaken]
    exact hposed

/-- An input that names what the questionnaire does not have fails, whatever else it says. -/
theorem settle_unknown (hc : ClaimedBy before claimed) (hbefore : ∀ j ∈ before, q.Admits j)
    (hid : i.Names id) (hno : id ∉ q.questionIds) :
    i.settle q.byId claimed ids = (.error (.notFound (.question id)), ids) := by
  have hfree : ¬ claimed.contains id = true := by
    rw [List.contains_iff_mem, hc id]
    rintro ⟨j, hj, hjid⟩
    exact hno ((hbefore j hj).known id hjid)
  unfold QuestionInput.settle
  rw [QuestionInput.given?_eq_some_iff.mpr hid]
  dsimp only
  rw [if_neg hfree, byId_eq_none_iff.mpr hno]
  rfl

/-- An input that names what the questionnaire has and describes no question breaks a rule. -/
theorem settle_unfit (claimed : List QuestionId) (ids : Ids)
    (hi : ∀ id, i.Names id → id ∈ q.questionIds) (hfit : ¬ i.Fits) :
    ∃ rule ids', i.settle q.byId claimed ids = (.error (.validation rule), ids') := by
  have hunfit : ¬ (i.title ≠ "" ∧ Question.checkOptions i.kind i.options = .ok ()) := by
    rintro ⟨htitle, hoptions⟩
    exact hfit ⟨htitle, Question.checkOptions_ok.mp hoptions⟩
  have hposed : ∃ rule ids', i.pose ids = (.error (.validation rule), ids') := by
    rw [pose_run]
    cases hmade : Question.create (ids.next : QuestionId × Ids).1 i.kind i.title i.imageUrl
        i.options with
    | error rule => exact ⟨rule, _, rfl⟩
    | ok x =>
      obtain ⟨htitle, hoptions, _⟩ := Question.create_ok.mp hmade
      exact absurd ⟨htitle, hoptions⟩ hunfit
  unfold QuestionInput.settle
  cases hgiven : Id.given? i.id with
  | none => exact hposed
  | some id =>
    obtain ⟨o, ho, _⟩ := byId_of_mem (hi id (QuestionInput.given?_eq_some_iff.mp hgiven))
    dsimp only
    split
    · exact hposed
    · rw [ho]
      dsimp only
      cases hrev : o.revise i with
      | error rule => exact ⟨rule, ids, rfl⟩
      | ok x =>
        obtain ⟨htitle, hoptions, _⟩ := Question.revise_ok.mp hrev
        exact absurd ⟨htitle, hoptions⟩ hunfit

/-! ## All inputs -/

/-- Admitted inputs give the questions they describe, one identifier for each that keeps none. -/
theorem reconciled_admitted (hc : ClaimedBy before claimed) (hadmits : ∀ i ∈ inputs, q.Admits i) :
    reconciled q.byId claimed inputs ids =
      (.ok (QuestionInput.questions ids before inputs),
        { ids with issued := ids.issued + QuestionInput.posed before inputs }) := by
  induction inputs generalizing before claimed ids with
  | nil => rfl
  | cons i rest ih =>
    have hi := hadmits i List.mem_cons_self
    have hrest := fun ids => @ih _ _ ids (hc.claim i)
      fun j hj => hadmits j (List.mem_cons_of_mem i hj)
    rw [reconciled_cons, run_bind]
    unfold QuestionInput.questions
    cases hk : i.kept? before with
    | some id =>
      rw [settle_kept hc hi hk]
      dsimp only
      rw [run_bind, hrest, QuestionInput.posed_cons_of_kept hk]
      rfl
    | none =>
      have hcount : ids.issued + 1 + QuestionInput.posed (before ++ [i]) rest =
          ids.issued + QuestionInput.posed before (i :: rest) := by
        rw [QuestionInput.posed_cons_of_none hk]
        omega
      rw [settle_posed hc hi.fits hk, ← hcount]
      dsimp only
      rw [run_bind, hrest]
      rfl

/-- Inputs that fit are passed over: the first one after them that fails decides. -/
theorem reconciled_fails {E : Fault → Prop} (hc : ClaimedBy before claimed)
    (hadmits : ∀ j ∈ inputs, q.Admits j) {rest : List QuestionInput}
    (hfail : ∀ claimed ids, ClaimedBy (before ++ inputs) claimed →
      ∃ f ids', E f ∧ i.settle q.byId claimed ids = (.error f, ids')) :
    ∃ f ids', E f ∧ reconciled q.byId claimed (inputs ++ i :: rest) ids = (.error f, ids') := by
  induction inputs generalizing before claimed ids with
  | nil =>
    rw [List.append_nil] at hfail
    obtain ⟨f, ids', hf, h⟩ := hfail claimed ids hc
    refine ⟨f, ids', hf, ?_⟩
    rw [List.nil_append, reconciled_cons, run_bind, h]
  | cons j others ih =>
    have hj := hadmits j List.mem_cons_self
    -- after `j` the walk goes on with whatever identifiers are left
    have hothers : ∀ ids, ∃ f ids', E f ∧
        reconciled q.byId (j.claim claimed) (others ++ i :: rest) ids = (.error f, ids') := by
      intro ids
      refine ih (hc.claim j) (fun x hx => hadmits x (List.mem_cons_of_mem j hx)) ?_
      rw [List.append_assoc, List.singleton_append]
      exact hfail
    rw [List.cons_append]
    cases hk : j.kept? before with
    | some id =>
      obtain ⟨f, ids', hf, h⟩ := hothers ids
      refine ⟨f, ids', hf, ?_⟩
      rw [reconciled_cons, run_bind, settle_kept hc hj hk]
      dsimp only
      rw [run_bind, h]
    | none =>
      obtain ⟨f, ids', hf, h⟩ := hothers (ids.next : QuestionId × Ids).2
      refine ⟨f, ids', hf, ?_⟩
      rw [reconciled_cons, run_bind, settle_posed hc hj.fits hk]
      dsimp only
      rw [run_bind, h]

/-- All inputs are admitted, or there is a first one that is not. -/
theorem admits_or_first (q : Questionnaire) (inputs : List QuestionInput) :
    (∀ i ∈ inputs, q.Admits i) ∨
      ∃ pre i post, inputs = pre ++ i :: post ∧ (∀ j ∈ pre, q.Admits j) ∧ ¬ q.Admits i := by
  induction inputs with
  | nil =>
    left
    intro i hi
    cases hi
  | cons x rest ih =>
    by_cases hx : q.Admits x
    · rcases ih with hall | ⟨pre, i, post, rfl, hpre, hi⟩
      · exact .inl (List.forall_mem_cons.mpr ⟨hx, hall⟩)
      · exact .inr ⟨x :: pre, i, post, rfl, List.forall_mem_cons.mpr ⟨hx, hpre⟩, hi⟩
    · right
      refine ⟨[], x, rest, rfl, ?_, hx⟩
      intro j hj
      cases hj

theorem claimedBy_nil : ClaimedBy [] [] := by
  intro id
  simp

/-- Inputs that are not all admitted fail: with the identifier that the first such input names, if
the questionnaire does not have it, and by a rule for questions otherwise. -/
theorem reconciled_refused {pre : List QuestionInput} (post : List QuestionInput) (ids : Ids)
    (hpre : ∀ j ∈ pre, q.Admits j) (hi : ¬ q.Admits i) : ∃ f ids',
      ((∃ id, i.Names id ∧ id ∉ q.questionIds ∧ f = .notFound (.question id)) ∨
        (∀ id, i.Names id → id ∈ q.questionIds) ∧ ∃ rule, f = .validation rule) ∧
      reconciled q.byId [] (pre ++ i :: post) ids = (.error f, ids') := by
  refine reconciled_fails claimedBy_nil hpre fun claimed ids hc => ?_
  rw [List.nil_append] at hc
  by_cases hknown : ∀ id, i.Names id → id ∈ q.questionIds
  · have hfit : ¬ i.Fits := fun h => hi ⟨hknown, h⟩
    obtain ⟨rule, ids', h⟩ := settle_unfit claimed ids hknown hfit
    exact ⟨_, ids', .inr ⟨hknown, rule, rfl⟩, h⟩
  · obtain ⟨id, hunknown⟩ := not_forall.mp hknown
    obtain ⟨hid, hno⟩ := Classical.not_imp.mp hunknown
    exact ⟨_, ids, .inl ⟨id, hid, hno, rfl⟩, settle_unknown hc hpre hid hno⟩

end Questionnaire

/-! ## Reconciling -/

/-- What a description and inputs have to be like for a questionnaire to take them. -/
structure Questionnaire.Accepts (q : Questionnaire) (description : String)
    (inputs : List QuestionInput) : Prop where
  admits : ∀ i ∈ inputs, q.Admits i
  described : description ≠ ""
  asked : inputs ≠ []
  titles : (inputs.map QuestionInput.title).Nodup

/-- `qs` are the questions for inputs when `ids` are left, and `ids'` is left then. -/
structure QuestionInput.Yields (inputs : List QuestionInput) (ids : Ids) (qs : List Question)
    (ids' : Ids) : Prop where
  length : qs.length = inputs.length
  place : ∀ pre i post, inputs = pre ++ i :: post → qs[pre.length]? =
    some (i.under ((i.kept? pre).getD ⟨ids.name (ids.issued + posed [] pre)⟩))
  supply : ids' = { ids with issued := ids.issued + posed [] inputs }

theorem QuestionInput.map_title_questions {ids : Ids} {before inputs : List QuestionInput} :
    (questions ids before inputs).map Question.title = inputs.map QuestionInput.title := by
  induction inputs generalizing ids before with
  | nil => rfl
  | cons i rest ih =>
    unfold questions
    cases i.kept? before with
    | none => rw [List.map_cons, List.map_cons, ih]; rfl
    | some id => rw [List.map_cons, List.map_cons, ih]; rfl

namespace Questionnaire

variable {q made : Questionnaire} {description : String} {inputs : List QuestionInput}
  {ids ids' : Ids}

theorem reconcile_run : q.reconcile description inputs ids =
    (do
      let questions ← reconciled q.byId [] inputs
      Minting.obey (create q.campaign description questions)) ids := rfl

/-- Admitted inputs give their questions, and these are checked together with the description. -/
theorem reconcile_admitted (h : ∀ i ∈ inputs, q.Admits i) : q.reconcile description inputs ids =
    ((create q.campaign description (QuestionInput.questions ids [] inputs)).mapError
      Fault.validation, { ids with issued := ids.issued + QuestionInput.posed [] inputs }) := by
  rw [reconcile_run, run_bind, reconciled_admitted claimedBy_nil h]
  rfl

theorem checkQuestions_questions (ids : Ids) :
    checkQuestions (QuestionInput.questions ids [] inputs) = .ok () ↔
      inputs ≠ [] ∧ (inputs.map QuestionInput.title).Nodup := by
  rw [checkQuestions_ok, QuestionInput.map_title_questions, ← List.length_pos_iff,
    QuestionInput.length_questions, List.length_pos_iff]

/-- What a questionnaire accepts it takes over. -/
theorem reconcile_accepted (h : q.Accepts description inputs) : q.reconcile description inputs ids =
    (.ok { campaign := q.campaign, description,
           questions := QuestionInput.questions ids [] inputs },
      { ids with issued := ids.issued + QuestionInput.posed [] inputs }) := by
  have hquestions := (checkQuestions_questions ids).mpr ⟨h.asked, h.titles⟩
  have hmade : create q.campaign description (QuestionInput.questions ids [] inputs) = .ok _ :=
    create_ok.mpr ⟨h.described, hquestions, rfl⟩
  rw [reconcile_admitted h.admits, hmade]
  rfl

/-- What a questionnaire takes over it accepts. -/
theorem accepts_of_admitted (hadmits : ∀ i ∈ inputs, q.Admits i)
    (h : q.reconcile description inputs ids = (.ok made, ids')) : q.Accepts description inputs := by
  rw [reconcile_admitted hadmits, Prod.mk.injEq, Except.mapError_ok] at h
  obtain ⟨hdescription, hquestions, _⟩ := create_ok.mp h.1
  obtain ⟨hasked, htitles⟩ := (checkQuestions_questions _).mp hquestions
  exact ⟨hadmits, hdescription, hasked, htitles⟩

theorem reconcile_refused (description : String) {pre : List QuestionInput} {i : QuestionInput}
    (post : List QuestionInput) (ids : Ids) (hpre : ∀ j ∈ pre, q.Admits j) (hi : ¬ q.Admits i) :
    ∃ f ids',
      ((∃ id, i.Names id ∧ id ∉ q.questionIds ∧ f = .notFound (.question id)) ∨
        (∀ id, i.Names id → id ∈ q.questionIds) ∧ ∃ rule, f = .validation rule) ∧
      q.reconcile description (pre ++ i :: post) ids = (.error f, ids') := by
  obtain ⟨f, ids', hf, h⟩ := reconciled_refused post ids hpre hi
  refine ⟨f, ids', hf, ?_⟩
  rw [reconcile_run, run_bind, h]

/-- Everything that can become of a description and a list of inputs. -/
theorem reconcile_cases (q : Questionnaire) (description : String) (inputs : List QuestionInput)
    (ids : Ids) :
    q.Accepts description inputs ∨
    (∃ pre i post id ids', inputs = pre ++ i :: post ∧ (∀ j ∈ pre, q.Admits j) ∧ i.Names id ∧
      id ∉ q.questionIds ∧
      q.reconcile description inputs ids = (.error (.notFound (.question id)), ids')) ∨
    ∃ rule ids', q.reconcile description inputs ids = (.error (.validation rule), ids') := by
  rcases admits_or_first q inputs with hall | ⟨pre, i, post, rfl, hpre, hi⟩
  · cases hr : q.reconcile description inputs ids with
    | mk result ids' =>
      cases result with
      | ok made => exact .inl (accepts_of_admitted hall hr)
      | error f =>
        right; right
        rw [reconcile_admitted hall] at hr
        cases hmade : create q.campaign description (QuestionInput.questions ids [] inputs) with
        | ok made => rw [hmade] at hr; cases hr
        | error rule => rw [hmade] at hr; cases hr; exact ⟨rule, _, rfl⟩
  · right
    obtain ⟨f, ids', ⟨id, hid, hno, rfl⟩ | ⟨_, rule, rfl⟩, h⟩ :=
      reconcile_refused description post ids hpre hi
    · exact .inl ⟨pre, i, post, id, ids', rfl, hpre, hid, hno, h⟩
    · exact .inr ⟨rule, ids', h⟩

/-- An input list is taken over if and only if the questionnaire accepts it. The first input that is
not admitted decides how it fails: an identifier that is unknown is not found, and everything else
breaks a rule. The questions that come about are those the inputs describe, in their order; of the
inputs that name a question the first keeps it, and the others take the next identifiers, as many as
there are such inputs. If these are new, no two questions have one identifier, and of the questions
from before those are left that an input names. -/
theorem reconcile_questions (q : Questionnaire) (description : String)
    (inputs : List QuestionInput) (ids : Ids) :
    ((∃ made ids', q.reconcile description inputs ids = (.ok made, ids')) ↔
      q.Accepts description inputs) ∧
    (∀ id, (∃ ids', q.reconcile description inputs ids =
        (.error (.notFound (.question id)), ids')) ↔
      ∃ pre i post, inputs = pre ++ i :: post ∧ (∀ j ∈ pre, q.Admits j) ∧ i.Names id ∧
        id ∉ q.questionIds) ∧
    (∀ f ids', q.reconcile description inputs ids = (.error f, ids') →
      (∃ id, f = .notFound (.question id)) ∨ ∃ rule, f = .validation rule) ∧
    ∀ made ids', q.reconcile description inputs ids = (.ok made, ids') →
      made.campaign = q.campaign ∧ made.description = description ∧
      QuestionInput.Yields inputs ids made.questions ids' ∧
      (ids.NewTo q.questionIds → made.questionIds.Nodup ∧
        ∀ id ∈ q.questionIds, id ∈ made.questionIds ↔ ∃ i ∈ inputs, i.Names id) := by
  have haccepts : ∀ made ids', q.reconcile description inputs ids = (.ok made, ids') →
      q.Accepts description inputs := by
    intro made ids' h
    rcases reconcile_cases q description inputs ids with hok | ⟨_, _, _, _, _, _, _, _, _, hr⟩ |
      ⟨_, _, hr⟩
    · exact hok
    · rw [hr] at h; cases h
    · rw [hr] at h; cases h
  refine ⟨⟨?_, ?_⟩, fun id => ⟨?_, ?_⟩, ?_, ?_⟩
  · rintro ⟨made, ids', h⟩
    exact haccepts made ids' h
  · intro h
    exact ⟨_, _, reconcile_accepted h⟩
  · rintro ⟨ids', h⟩
    rcases reconcile_cases q description inputs ids with hok |
      ⟨pre, i, post, k, _, hsplit, hpre, hid, hno, hr⟩ | ⟨_, _, hr⟩
    · rw [reconcile_accepted hok] at h; cases h
    · rw [hr] at h
      cases h
      exact ⟨pre, i, post, hsplit, hpre, hid, hno⟩
    · rw [hr] at h; cases h
  · rintro ⟨pre, i, post, rfl, hpre, hid, hno⟩
    have hi : ¬ q.Admits i := fun h => hno (h.known id hid)
    obtain ⟨f, ids', ⟨k, hk, _, rfl⟩ | ⟨hknown, _⟩, h⟩ :=
      reconcile_refused description post ids hpre hi
    · have hsame : k = id := Option.some.inj (hk.1.symm.trans hid.1)
      subst hsame
      exact ⟨ids', h⟩
    · exact absurd (hknown id hid) hno
  · intro f ids' h
    rcases reconcile_cases q description inputs ids with hok | ⟨_, _, _, k, _, _, _, _, _, hr⟩ |
      ⟨rule, _, hr⟩
    · rw [reconcile_accepted hok] at h; cases h
    · rw [hr] at h; cases h; exact .inl ⟨k, rfl⟩
    · rw [hr] at h; cases h; exact .inr ⟨rule, rfl⟩
  · intro made ids' h
    have hok := haccepts made ids' h
    rw [reconcile_accepted hok] at h
    cases h
    have hknown : ∀ i ∈ inputs, ∀ id, i.Names id → id ∈ q.questionIds :=
      fun i hi => (hok.admits i hi).known
    refine ⟨rfl, rfl, ⟨QuestionInput.length_questions, ?_, rfl⟩, fun hids =>
      ⟨QuestionInput.questions_nodup hids hknown, fun id hid => ⟨fun hmem => ?_, ?_⟩⟩⟩
    · rintro pre i post rfl
      exact QuestionInput.questions_getElem?
    · rcases QuestionInput.mem_questions hmem with ⟨hnamed, _⟩ | ⟨n, hn, rfl⟩
      · exact hnamed
      · exact absurd hid (hids.unused n hn)
    · rintro ⟨i, hi, hnames⟩
      exact QuestionInput.mem_questions_of_named hi hnames fun j hj => by cases hj

/-- A questionnaire as it may be restored: one identifier is there twice. -/
def twiceAsked : Questionnaire where
  campaign := ⟨"spring"⟩
  description := "about you"
  questions := [
    { id := ⟨"size"⟩, kind := .text, title := "size", imageUrl := "", options := [] },
    { id := ⟨"size"⟩, kind := .text, title := "colour", imageUrl := "", options := [] },
    { id := ⟨"skin"⟩, kind := .radio, title := "skin", imageUrl := "", options := ["dry", "oily"] }]

/-- Two inputs for one question, a blank one, and titles that move between questions. -/
def renewed : List QuestionInput := [
  { id := some ⟨"skin"⟩, kind := .text, title := "size" },
  { id := some ⟨"skin"⟩, kind := .radio, title := "skin", options := ["dry", "mixed"] },
  { id := some ⟨""⟩, kind := .text, title := "colour" }]

/-- The first of the two inputs keeps the question, the others make new ones, and what no input
names is gone. An identifier that no question has is reported before what else is wrong. -/
theorem twiceAsked_renewed : ∃ made ids',
    twiceAsked.reconcile "about you" renewed Ids.counting = (.ok made, ids') ∧
      made.questionIds.Nodup ∧ ⟨"skin"⟩ ∈ made.questionIds ∧ ⟨"size"⟩ ∉ made.questionIds ∧
      QuestionInput.Yields renewed Ids.counting made.questions ids' ∧
      (∃ left, twiceAsked.reconcile ""
        ({ id := some ⟨"age"⟩, kind := .text, title := "" } :: renewed) Ids.counting =
          (.error (.notFound (.question ⟨"age"⟩)), left)) ∧
      ∃ f left, twiceAsked.reconcile "" renewed Ids.counting = (.error f, left) ∧
        ((∃ id, f = .notFound (.question id)) ∨ ∃ rule, f = .validation rule) := by
  obtain ⟨hok, _, _, hmade⟩ := reconcile_questions twiceAsked "about you" renewed Ids.counting
  obtain ⟨_, _, hfails, _⟩ := reconcile_questions twiceAsked "" renewed Ids.counting
  obtain ⟨_, hmissing, _, _⟩ := reconcile_questions twiceAsked ""
    ({ id := some ⟨"age"⟩, kind := .text, title := "" } :: renewed) Ids.counting
  have hnew : Ids.counting.NewTo twiceAsked.questionIds := by
    refine ⟨fun m n _ _ h => Ids.numbered_injective h, fun n _ hmem => ?_⟩
    have hchars : ∃ rest, (Ids.numbered n).toList = 'i' :: 'd' :: rest := by
      unfold Ids.numbered
      rw [String.toList_append]
      exact ⟨_, rfl⟩
    obtain ⟨rest, hrest⟩ := hchars
    obtain ⟨x, hx, hid⟩ := List.mem_map.mp hmem
    have htext : x.id.text.toList = 'i' :: 'd' :: rest := by rw [hid]; exact hrest
    simp only [twiceAsked, List.mem_cons, List.not_mem_nil, or_false] at hx
    rcases hx with rfl | rfl | rfl <;> simp at htext
  have haccepts : twiceAsked.Accepts "about you" renewed := by
    refine ⟨fun i hi => ?_, by decide, by decide, by decide⟩
    simp only [renewed, List.mem_cons, List.not_mem_nil, or_false] at hi
    rcases hi with rfl | rfl | rfl
    · refine ⟨fun id h => ?_, by decide, rfl⟩
      cases h.1
      decide
    · refine ⟨fun id h => ?_, by decide, by decide, by decide⟩
      cases h.1
      decide
    · refine ⟨fun id h => ?_, by decide, rfl⟩
      cases h.1
      exact absurd rfl h.2
  obtain ⟨made, ids', h⟩ := hok.mpr haccepts
  obtain ⟨_, _, hyields, hids⟩ := hmade made ids' h
  obtain ⟨hnodup, hgone⟩ := hids hnew
  have hblank : twiceAsked.reconcile "" renewed Ids.counting =
      (.error (.validation (.required .questionnaireDescription)),
        { Ids.counting with issued := 2 }) := by
    rfl
  refine ⟨made, ids', h, hnodup, ?_, ?_, hyields, ?_, _, _, hblank, hfails _ _ hblank⟩
  · exact (hgone ⟨"skin"⟩ (by decide)).mpr ⟨_, List.mem_cons_self, rfl, by decide⟩
  · intro hmem
    obtain ⟨i, hi, hnames⟩ := (hgone ⟨"size"⟩ (by decide)).mp hmem
    simp only [renewed, List.mem_cons, List.not_mem_nil, or_false] at hi
    rcases hi with rfl | rfl | rfl <;> exact absurd hnames.1 (by decide)
  · refine (hmissing ⟨"age"⟩).mpr ⟨[], _, _, rfl, ?_, ⟨rfl, by decide⟩, by decide⟩
    intro j hj
    cases hj

end Questionnaire

end Sponsorship
