import Mathlib.Data.List.Forall2
import Sponsorship.Command

/-!
# Sponsorship.Proofs.Ends

How work over a state ends.

* `Ends t w Q E`: started at `w`, the work `t` ends with a result and a state in `Q`, or with a fault
  in `E`. One rule for each way work is put together: results, sequences, checks, new identifiers,
  loops over assignees.
* `tally_ends`, `eachOf_ends`: the rules for the loops. `I` relates what is left of the list with
  the state.
* `demand_ok`, `requireText_ok`, `Except.bind_ok`, `Except.check_ok`, `Except.mapM_forall₂`: what
  checks say when they pass.
-/

namespace Sponsorship

/-! ## Checks -/

theorem demand_ok {p : Bool} {v : Violation} : demand p v = .ok () ↔ p = true := by
  cases p <;> simp [demand]

theorem requireText_ok {what : Required} {s : String} : requireText what s = .ok () ↔ s ≠ "" := by
  unfold requireText
  split
  · rename_i h; simp [String.isEmpty_iff.mp h]
  · rename_i h
    simp only [true_iff]
    intro hs; exact h (by simp [hs])

theorem Except.bind_ok {ε α β : Type} {x : Except ε α} {f : α → Except ε β} {b : β} :
    (x >>= f) = .ok b ↔ ∃ a, x = .ok a ∧ f a = .ok b := by
  cases x with
  | error e => simp [bind, Except.bind]
  | ok a => simp [bind, Except.bind]

/-- A check in front of work that may fail. -/
theorem Except.check_ok {ε β : Type} {x : Except ε Unit} {f : Unit → Except ε β} {b : β} :
    (x >>= f) = .ok b ↔ x = .ok () ∧ f () = .ok b := by
  rw [bind_ok]
  exact ⟨fun ⟨_, hx, hf⟩ => ⟨hx, hf⟩, fun ⟨hx, hf⟩ => ⟨(), hx, hf⟩⟩

theorem Except.mapError_ok {ε ε' α : Type} {x : Except ε α} {f : ε → ε'} {a : α} :
    x.mapError f = .ok a ↔ x = .ok a := by
  cases x with
  | ok b => constructor <;> intro h <;> cases h <;> rfl
  | error e => constructor <;> intro h <;> cases h

theorem Except.pure_ok {ε α : Type} {a b : α} : (pure a : Except ε α) = .ok b ↔ a = b := by
  simp [pure, Except.pure]

theorem Except.ok_of_isOk {ε α : Type} {x : Except ε α} (h : x.isOk = true) : ∃ a, x = .ok a := by
  cases x with
  | ok a => exact ⟨a, rfl⟩
  | error e => cases h

/-- Lists that are related element by element: each element on the left has one on the right. -/
theorem exists_right_of_forall₂ {α β : Type} {R : α → β → Prop} {as : List α} {bs : List β}
    (h : List.Forall₂ R as bs) {a : α} (ha : a ∈ as) : ∃ b ∈ bs, R a b := by
  induction h with
  | nil => cases ha
  | @cons x y rest others hxy _ ih =>
    rcases List.mem_cons.mp ha with rfl | ha
    · exact ⟨y, List.mem_cons_self, hxy⟩
    · obtain ⟨b, hb, hab⟩ := ih ha
      exact ⟨b, List.mem_cons_of_mem y hb, hab⟩

theorem exists_left_of_forall₂ {α β : Type} {R : α → β → Prop} {as : List α} {bs : List β}
    (h : List.Forall₂ R as bs) {b : β} (hb : b ∈ bs) : ∃ a ∈ as, R a b :=
  exists_right_of_forall₂ (R := flip R) (List.Forall₂.flip h) hb

/-- The results of a list of checks, one for each element. -/
theorem Except.mapM_forall₂ {ε α β : Type} {f : α → Except ε β} {as : List α} {bs : List β}
    (h : as.mapM f = .ok bs) : List.Forall₂ (fun a b => f a = .ok b) as bs := by
  induction as generalizing bs with
  | nil =>
    rw [List.mapM_nil, pure_ok] at h
    subst h
    exact .nil
  | cons a rest ih =>
    rw [List.mapM_cons] at h
    obtain ⟨first, hfirst, h⟩ := bind_ok.mp h
    obtain ⟨others, hothers, h⟩ := bind_ok.mp h
    obtain rfl := pure_ok.mp h
    exact .cons hfirst (ih hothers)

/-- Each result of a list of checks is the result of one of them. -/
theorem Except.mapM_ok {ε α β : Type} {f : α → Except ε β} {as : List α} {bs : List β}
    (h : as.mapM f = .ok bs) : ∀ b ∈ bs, ∃ a ∈ as, f a = .ok b :=
  fun _ hb => exists_left_of_forall₂ (mapM_forall₂ h) hb

/-- Checks that give back what was put into them give back a whole list. -/
theorem Except.mapM_map_ok {ε α β : Type} {f : β → Except ε α} {g : α → β} {as : List α}
    (h : ∀ a ∈ as, f (g a) = .ok a) : (as.map g).mapM f = .ok as := by
  induction as with
  | nil => rfl
  | cons a rest ih =>
    have hrest := ih fun b hb => h b (List.mem_cons_of_mem a hb)
    rw [List.map_cons, List.mapM_cons]
    exact Except.bind_ok.mpr ⟨a, h a List.mem_cons_self, Except.bind_ok.mpr ⟨rest, hrest, rfl⟩⟩

/-- A list of checks passes if each of them does. -/
theorem Except.mapM_isOk_iff {ε α β : Type} {f : α → Except ε β} {as : List α} :
    (∃ bs, as.mapM f = .ok bs) ↔ ∀ a ∈ as, ∃ b, f a = .ok b := by
  constructor
  · rintro ⟨bs, h⟩ a ha
    obtain ⟨b, _, hb⟩ := exists_right_of_forall₂ (mapM_forall₂ h) ha
    exact ⟨b, hb⟩
  · intro h
    induction as with
    | nil => exact ⟨[], rfl⟩
    | cons a rest ih =>
      obtain ⟨b, hb⟩ := h a List.mem_cons_self
      obtain ⟨bs, hbs⟩ := ih fun x hx => h x (List.mem_cons_of_mem a hx)
      refine ⟨b :: bs, ?_⟩
      rw [List.mapM_cons]
      exact bind_ok.mpr ⟨b, hb, bind_ok.mpr ⟨bs, hbs, rfl⟩⟩

/-- The first check that fails is what a list of checks fails with. -/
theorem Except.mapM_error {ε α β : Type} {f : α → Except ε β} {front back : List α} {x : α} {e : ε}
    (hfront : ∀ a ∈ front, ∃ b, f a = .ok b) (hx : f x = .error e) :
    (front ++ x :: back).mapM f = .error e := by
  induction front with
  | nil =>
    rw [List.nil_append, List.mapM_cons, hx]
    rfl
  | cons a rest ih =>
    obtain ⟨b, hb⟩ := hfront a List.mem_cons_self
    rw [List.cons_append, List.mapM_cons, hb, ih fun c hc => hfront c (List.mem_cons_of_mem a hc)]
    rfl

/-! ## Work over a state -/

section Work

variable {S α β : Type}

/-- Started at `w`, the work ends with a result and a state in `Q`, or with a fault in `E`. -/
def Ends (t : ExceptT Fault (StateM S) α) (w : S) (Q : α → S → Prop) (E : Fault → Prop) : Prop :=
  match t w with
  | (.ok a, w') => Q a w'
  | (.error f, _) => E f

variable {t : ExceptT Fault (StateM S) α} {w w' : S} {Q Q' : α → S → Prop} {E E' : Fault → Prop}

theorem Ends.of_ok {a : α} (h : t w = (.ok a, w')) (hq : Q a w') : Ends t w Q E := by
  unfold Ends; rw [h]; exact hq

theorem Ends.of_error {f : Fault} (h : t w = (.error f, w')) (he : E f) : Ends t w Q E := by
  unfold Ends; rw [h]; exact he

theorem Ends.ok {a : α} (h : Ends t w Q E) (ht : t w = (.ok a, w')) : Q a w' := by
  unfold Ends at h; rw [ht] at h; exact h

theorem Ends.error {f : Fault} (h : Ends t w Q E) (ht : t w = (.error f, w')) : E f := by
  unfold Ends at h; rw [ht] at h; exact h

theorem Ends.mono (h : Ends t w Q E) (hq : ∀ a w', Q a w' → Q' a w') (he : ∀ f, E f → E' f) :
    Ends t w Q' E' := by
  rcases ht : t w with ⟨r, w'⟩
  cases r with
  | ok a => exact .of_ok ht (hq a w' (h.ok ht))
  | error f => exact .of_error ht (he f (h.error ht))

theorem Ends.imp (h : Ends t w Q E) (hq : ∀ a w', Q a w' → Q' a w') : Ends t w Q' E :=
  h.mono hq fun _ he => he

/-- What two proofs say of the same work. -/
theorem Ends.and (h : Ends t w Q E) (h' : Ends t w Q' E') :
    Ends t w (fun a w' => Q a w' ∧ Q' a w') fun f => E f ∧ E' f := by
  rcases ht : t w with ⟨r, w'⟩
  cases r with
  | ok a => exact .of_ok ht ⟨h.ok ht, h'.ok ht⟩
  | error f => exact .of_error ht ⟨h.error ht, h'.error ht⟩

theorem Ends.pure {a : α} (h : Q a w) : Ends (Pure.pure a) w Q E := .of_ok rfl h

theorem Ends.throw {f : Fault} (h : E f) : Ends (MonadExcept.throw f) w Q E := .of_error rfl h

theorem run_bind (x : ExceptT Fault (StateM S) α) (f : α → ExceptT Fault (StateM S) β) (w : S) :
    (x >>= f) w = match x w with
      | (.ok a, w') => f a w'
      | (.error e, w') => (.error e, w') := by
  change (match x w with | (r, w') => (ExceptT.bindCont f r : StateM _ _) w') = _
  rcases x w with ⟨r, w'⟩
  cases r <;> rfl

/-- A sequence that succeeds began with work that did. -/
theorem run_bind_of_ok {x : ExceptT Fault (StateM S) α} {f : α → ExceptT Fault (StateM S) β}
    {b : β} (h : ((x >>= f) w).1 = .ok b) :
    ∃ a, (x w).1 = .ok a ∧ (f a (x w).2).1 = .ok b ∧ (x >>= f) w = f a (x w).2 := by
  rw [run_bind] at h ⊢
  rcases hx : x w with ⟨r, w'⟩
  rw [hx] at h
  cases r with
  | ok a => exact ⟨a, rfl, h, rfl⟩
  | error e => cases h

theorem run_map (g : α → β) (x : ExceptT Fault (StateM S) α) (w : S) :
    (g <$> x) w = ((x w).1.map g, (x w).2) := by
  rw [← bind_pure_comp, run_bind]
  rcases x w with ⟨r, w'⟩
  cases r <;> rfl

theorem run_tryCatch (x : ExceptT Fault (StateM S) α) (h : Fault → ExceptT Fault (StateM S) α)
    (w : S) :
    (tryCatch x h) w = match x w with
      | (.ok a, w') => (.ok a, w')
      | (.error e, w') => h e w' := by
  simp only [tryCatch, tryCatchThe, MonadExceptOf.tryCatch, ExceptT.tryCatch, ExceptT.mk,
    Bind.bind, StateT.bind]
  rcases x w with ⟨r, w'⟩
  cases r <;> rfl

theorem Ends.bind {x : ExceptT Fault (StateM S) α} {f : α → ExceptT Fault (StateM S) β}
    {Q : β → S → Prop} (h : Ends x w (fun a w' => Ends (f a) w' Q E) E) :
    Ends (x >>= f) w Q E := by
  rcases hx : x w with ⟨r, w'⟩
  unfold Ends
  rw [run_bind, hx]
  cases r with
  | ok a => exact h.ok hx
  | error e => exact h.error hx

theorem Ends.map {x : ExceptT Fault (StateM S) α} {f : α → β} {Q : β → S → Prop}
    (h : Ends x w (fun a w' => Q (f a) w') E) : Ends (f <$> x) w Q E := by
  rw [← bind_pure_comp]
  exact .bind (h.imp fun a w' hq => .pure hq)

theorem Ends.tryCatch {x : ExceptT Fault (StateM S) α} {h : Fault → ExceptT Fault (StateM S) α}
    (hx : Ends x w Q fun f => ∀ w', Ends (h f) w' Q E) : Ends (MonadExcept.tryCatch x h) w Q E := by
  rcases hr : x w with ⟨r, w'⟩
  unfold Ends
  rw [run_tryCatch, hr]
  cases r with
  | ok a => exact hx.ok hr
  | error f => exact hx.error hr w'

end Work

/-! ## Tasks -/

section Tasks

variable {σ α : Type} {w : World σ} {Q : α → World σ → Prop} {E : Fault → Prop}

theorem Task.ofExcept_ends {r : Except Fault α} (hq : ∀ a, r = .ok a → Q a w)
    (he : ∀ f, r = .error f → E f) : Ends (Task.ofExcept r) w Q E := by
  cases r with
  | ok a => exact .of_ok rfl (hq a rfl)
  | error f => exact .of_error rfl (he f rfl)

theorem Task.obey_ends {r : Except Violation α} (hq : ∀ a, r = .ok a → Q a w)
    (he : ∀ v, r = .error v → E (.validation v)) : Ends (Task.obey r) w Q E := by
  cases r with
  | ok a => exact .of_ok rfl (hq a rfl)
  | error v => exact .of_error rfl (he v rfl)

theorem Task.ofMinting_ends {m : Minting α}
    (hq : ∀ a ids, m w.ids = (.ok a, ids) → Q a { w with ids })
    (he : ∀ f ids, m w.ids = (.error f, ids) → E f) : Ends (Task.ofMinting m) w Q E := by
  rcases hm : m w.ids with ⟨r, ids⟩
  have ht : Task.ofMinting m w = (r, { w with ids }) := by unfold Task.ofMinting; rw [hm]
  cases r with
  | ok a => exact .of_ok ht (hq a ids hm)
  | error f => exact .of_error ht (he f ids hm)

theorem Task.ofState_ends {f : σ → Except Fault α × σ}
    (hq : ∀ a, (f w.state).1 = .ok a → Q a { w with state := (f w.state).2 })
    (he : ∀ e, (f w.state).1 = .error e → E e) : Ends (Task.ofState f) w Q E := by
  have hrun : Task.ofState f w = ((f w.state).1, { w with state := (f w.state).2 }) := rfl
  cases hr : (f w.state).1 with
  | ok a => exact .of_ok (hrun.trans (by rw [hr])) (hq a hr)
  | error e => exact .of_error (hrun.trans (by rw [hr])) (he e hr)

theorem tally_ends {step : Assignee → Task σ Bool} {I : List Assignee → World σ → Prop}
    (hstep : ∀ a rest w, I (a :: rest) w → Ends (step a) w (fun _ w' => I rest w') E)
    (as : List Assignee) (w : World σ) (h : I as w) :
    Ends (tally step as) w (fun _ w' => I [] w') E := by
  induction as generalizing w with
  | nil => exact .pure h
  | cons a rest ih =>
    refine .bind ((hstep a rest w h).imp fun moved w₁ h₁ => ?_)
    refine .bind ((ih w₁ h₁).imp fun report w₂ h₂ => ?_)
    exact .pure h₂

theorem eachOf_ends {β : Type} {step : β → Task σ Unit} {I : List β → World σ → Prop}
    (hstep : ∀ b rest w, I (b :: rest) w → Ends (step b) w (fun _ w' => I rest w') E)
    (bs : List β) (w : World σ) (h : I bs w) :
    Ends (eachOf step bs) w (fun _ w' => I [] w') E := by
  induction bs generalizing w with
  | nil => exact .pure h
  | cons b rest ih =>
    exact .bind ((hstep b rest w h).imp fun _ w₁ h₁ => ih w₁ h₁)

end Tasks

end Sponsorship
