import Mathlib.Data.List.Induction
import Sponsorship.Proofs.Ends

/-!
# Sponsorship.Proofs.Attempts

Changes of a value that are tried one after another.

* `attempt change a b`: the value after `b` was tried. A change that fails leaves it as it was.
* `attempts change a bs`: the value after all of `bs` were tried.
* `Succeeds change a bs P`: one of `bs` that has `P` succeeded when it was tried.
* `attempts_history`: what holds at first and is kept, whether a change succeeds or fails, holds in
  the end; it may speak of the changes that were tried.
-/

namespace Sponsorship

section Attempts

variable {ε α β γ : Type} {change : α → β → Except ε α} {a a' : α} {b : β} {bs cs : List β}
  {P : β → Prop}

/-- The value after a change was tried. -/
def attempt (change : α → β → Except ε α) (a : α) (b : β) : α :=
  match change a b with
  | .ok a' => a'
  | .error _ => a

/-- The value after changes were tried, one after another. -/
def attempts (change : α → β → Except ε α) (a : α) (bs : List β) : α := bs.foldl (attempt change) a

/-- One of the changes that has `P` succeeded when it was tried. -/
def Succeeds (change : α → β → Except ε α) (a : α) (bs : List β) (P : β → Prop) : Prop :=
  ∃ past b future a', bs = past ++ b :: future ∧ P b ∧ change (attempts change a past) b = .ok a'

theorem attempt_ok (h : change a b = .ok a') : attempt change a b = a' := by
  simp only [attempt, h]

theorem attempt_error {e : ε} (h : change a b = .error e) : attempt change a b = a := by
  simp only [attempt, h]

theorem attempts_append : attempts change a (bs ++ cs) = attempts change (attempts change a bs) cs :=
  List.foldl_append

theorem attempts_concat : attempts change a (bs ++ [b]) = attempt change (attempts change a bs) b :=
  attempts_append

/-- What holds at first and is kept by every change that succeeds or fails holds after all of them. -/
theorem attempts_history {I : List β → α → Prop} (hstart : I [] a)
    (hok : ∀ bs b a', I bs (attempts change a bs) → change (attempts change a bs) b = .ok a' →
      I (bs ++ [b]) a')
    (herror : ∀ bs b e, I bs (attempts change a bs) → change (attempts change a bs) b = .error e →
      I (bs ++ [b]) (attempts change a bs)) (bs : List β) : I bs (attempts change a bs) := by
  induction bs using List.reverseRecOn with
  | nil => exact hstart
  | append_singleton bs b ih =>
    rw [attempts_concat]
    cases h : change (attempts change a bs) b with
    | ok a' => rw [attempt_ok h]; exact hok bs b a' ih h
    | error e => rw [attempt_error h]; exact herror bs b e ih h

/-- What every change that succeeds keeps. -/
theorem attempts_keep {I : α → Prop} (hstart : I a)
    (hok : ∀ a b a', I a → change a b = .ok a' → I a') (bs : List β) : I (attempts change a bs) :=
  attempts_history (I := fun _ a => I a) hstart (fun _ b a' h hb => hok _ b a' h hb)
    (fun _ _ _ h _ => h) bs

namespace Succeeds

variable {Q : β → Prop}

theorem mono (h : Succeeds change a bs P) (hPQ : ∀ b, P b → Q b) : Succeeds change a bs Q := by
  obtain ⟨past, b, future, a', heq, hb, hok⟩ := h
  exact ⟨past, b, future, a', heq, hPQ b hb, hok⟩

theorem concat (h : Succeeds change a bs P) : Succeeds change a (bs ++ [b]) P := by
  obtain ⟨past, c, future, a', rfl, hc, hok⟩ := h
  exact ⟨past, c, future ++ [b], a', by simp, hc, hok⟩

theorem last (hb : P b) (h : change (attempts change a bs) b = .ok a') :
    Succeeds change a (bs ++ [b]) P :=
  ⟨bs, b, [], a', rfl, hb, h⟩

/-- Among one change more, it is that one or one of those before. -/
theorem concat_cases (h : Succeeds change a (bs ++ [b]) P) :
    Succeeds change a bs P ∨ P b ∧ ∃ a', change (attempts change a bs) b = .ok a' := by
  obtain ⟨past, c, future, a', heq, hc, hok⟩ := h
  rcases List.eq_nil_or_concat future with rfl | ⟨future, d, rfl⟩
  · obtain ⟨rfl, hbc⟩ := List.append_inj' heq rfl
    cases hbc
    exact .inr ⟨hc, a', hok⟩
  · have hsplit : bs ++ [b] = (past ++ c :: future) ++ [d] := by simp [heq]
    obtain ⟨rfl, _⟩ := List.append_inj' hsplit rfl
    exact .inl ⟨past, c, future, a', rfl, hc, hok⟩

end Succeeds

/-- What only changes with `P` touch stays if none of those succeeds. -/
theorem attempts_keep_of_not_succeeds {g : α → γ}
    (hkeep : ∀ a b a', ¬ P b → change a b = .ok a' → g a' = g a) (h : ¬ Succeeds change a bs P) :
    g (attempts change a bs) = g a := by
  refine attempts_history (I := fun bs a' => ¬ Succeeds change a bs P → g a' = g a) (fun _ => rfl)
    (fun bs b a' ih hb hnot => ?_) (fun bs b e ih hb hnot => ih fun hs => hnot hs.concat) bs h
  have hP : ¬ P b := fun hP => hnot (.last hP hb)
  rw [hkeep _ b a' hP hb, ih fun hs => hnot hs.concat]

end Attempts

end Sponsorship
