import Sponsorship.Proofs.History
import Sponsorship.Proofs.Rows
import Sponsorship.Proofs.View

/-!
# Sponsorship.Proofs.Idle

Work that changes nothing, or nothing of a part of the tables.

* `Idle t w a`: started at `w`, the work `t` succeeds with `a` and leaves `w` as it was. One rule for
  each way work is put together.
* `Preserves part t`: whether it succeeds or fails, the work `t` leaves a part of the tables as it is.
* `amend_self`, `Keyed.insert_self`, `Keyed.erase_absent`: what is written is there already.
-/

namespace Sponsorship

/-! ## Work -/

section Work

variable {S α β : Type}

/-- The work succeeds with `a` and changes nothing. -/
def Idle (t : ExceptT Fault (StateM S) α) (w : S) (a : α) : Prop := t w = (.ok a, w)

variable {w : S} {a : α} {b : β}

theorem Idle.pure : Idle (Pure.pure a) w a := rfl

theorem Idle.run_bind {x : ExceptT Fault (StateM S) α} {f : α → ExceptT Fault (StateM S) β}
    (h : Idle x w a) : (x >>= f) w = f a w := by
  rw [Sponsorship.run_bind, h]

/-- Work that begins with a step that changes nothing ends as the rest does. -/
theorem Idle.ends {x : ExceptT Fault (StateM S) α} {f : α → ExceptT Fault (StateM S) β}
    {Q : β → S → Prop} {E : Fault → Prop} (h : Idle x w a) (hf : Ends (f a) w Q E) :
    Ends (x >>= f) w Q E := by
  unfold Ends
  rw [h.run_bind]
  exact hf

theorem Idle.bind {x : ExceptT Fault (StateM S) α} {f : α → ExceptT Fault (StateM S) β}
    (h : Idle x w a) (hf : Idle (f a) w b) : Idle (x >>= f) w b :=
  h.run_bind.trans hf

theorem Idle.tryCatch {x : ExceptT Fault (StateM S) α} {f : Fault → ExceptT Fault (StateM S) α}
    (h : Idle x w a) : Idle (MonadExcept.tryCatch x f) w a := by
  unfold Idle
  rw [run_tryCatch, h]

end Work

section Tasks

variable {σ α : Type} {w : World σ} {a : α}

theorem Minting.idle_obey {r : Except Violation α} {ids : Ids} (h : r = .ok a) :
    Idle (Minting.obey r) ids a := by
  subst h; rfl

theorem Task.idle_ofExcept {r : Except Fault α} (h : r = .ok a) : Idle (Task.ofExcept r) w a := by
  subst h; rfl

theorem Task.idle_obey {r : Except Violation α} (h : r = .ok a) : Idle (Task.obey r) w a := by
  subst h; rfl

theorem Task.idle_ofMinting {m : Minting α} (h : Idle m w.ids a) : Idle (Task.ofMinting m) w a := by
  unfold Idle Task.ofMinting
  rw [h]

theorem Task.idle_ofState {f : σ → Except Fault α × σ} (h : (f w.state).1 = .ok a)
    (hstate : (f w.state).2 = w.state) : Idle (Task.ofState f) w a := by
  have hf : f w.state = (.ok a, w.state) := Prod.ext h hstate
  unfold Idle Task.ofState
  rw [hf]

theorem idle_eachOf {step : α → Task σ Unit} {as : List α} (h : ∀ a ∈ as, Idle (step a) w ()) :
    Idle (eachOf step as) w () := by
  induction as with
  | nil => exact .pure
  | cons a rest ih =>
    have hrest : ∀ b ∈ rest, Idle (step b) w () := fun b hb => h b (List.mem_cons_of_mem a hb)
    exact .bind (h a List.mem_cons_self) (ih hrest)

theorem Call.idle {c : Call} {w : World Tables} {r : c.Reply}
    (h : w.state.answer c = (.ok r, w.state)) : Idle (Store.memory.call c) w r :=
  Task.idle_ofState (congrArg Prod.fst h) (congrArg Prod.snd h)

theorem Call.idle_getCampaign {w : World Tables} {id : CampaignId} {c : Campaign} {lock : Bool}
    (hc : w.state.campaign? id = some c) : Idle (Store.memory.call (.getCampaign id lock)) w c :=
  Call.idle (by simp only [Tables.answer, hc, Tables.found])

/-- A loop that moves nobody. -/
theorem idle_tally {step : Assignee → Task σ Bool} {as : List Assignee}
    (h : ∀ a ∈ as, Idle (step a) w false) :
    Idle (tally step as) w { moved := 0, skipped := as.length } := by
  induction as with
  | nil => exact .pure
  | cons a rest ih =>
    have hrest : ∀ b ∈ rest, Idle (step b) w false := fun b hb => h b (List.mem_cons_of_mem a hb)
    exact .bind (h a List.mem_cons_self) (.bind (ih hrest) .pure)

/-- A unit of work that changes nothing is committed like any other. -/
theorem transact_of_idle {body : Task Tables α} {w : World Memory} (h : Idle body w.unit a) :
    Store.memory.transact body w =
      (.ok a, { ids := w.ids, state := ⟨w.state.tables, w.state.commits + 1⟩ }) := by
  rw [transact_memory, h]
  rfl

end Tasks

/-! ## A part of the tables -/

/-- Work that leaves a part of the tables as it is, whether it succeeds or fails. -/
def Preserves {α β : Type} (part : Tables → β) (t : Task Tables α) : Prop :=
  ∀ w, part (t w).2.state = part w.state

namespace Preserves

variable {α β γ : Type} {part : Tables → γ}

theorem ofExcept (r : Except Fault α) : Preserves part (Task.ofExcept r) := fun _ => rfl

theorem ofMinting (m : Minting α) : Preserves part (Task.ofMinting m) := fun _ => rfl

theorem call {c : Call} (h : ∀ t : Tables, part (t.answer c).2 = part t) :
    Preserves part (Store.memory.call c) := fun w => h w.state

theorem bind {x : Task Tables α} {f : α → Task Tables β} (hx : Preserves part x)
    (hf : ∀ a, Preserves part (f a)) : Preserves part (x >>= f : Task Tables β) := by
  intro w
  have hw := hx w
  rw [run_bind]
  rcases hr : x w with ⟨r, w₁⟩
  rw [hr] at hw
  cases r with
  | ok a => exact (hf a w₁).trans hw
  | error f => exact hw

/-- What is written may depend on what was made. -/
theorem bindMinting {m : Minting α} {f : α → Task Tables β}
    (hf : ∀ a ids ids', m ids = (.ok a, ids') → Preserves part (f a)) :
    Preserves part (Task.ofMinting m >>= f : Task Tables β) := by
  intro w
  rw [run_bind]
  unfold Task.ofMinting
  rcases hm : m w.ids with ⟨r, ids'⟩
  cases r with
  | ok a => exact hf a w.ids ids' hm _
  | error f => rfl

theorem tryCatch {x : Task Tables α} {handler : Fault → Task Tables α} (hx : Preserves part x)
    (hh : ∀ f, Preserves part (handler f)) :
    Preserves part (MonadExcept.tryCatch x handler : Task Tables α) := by
  intro w
  have hw := hx w
  rw [run_tryCatch]
  rcases hr : x w with ⟨r, w₁⟩
  rw [hr] at hw
  cases r with
  | ok a => exact hw
  | error f => exact (hh f w₁).trans hw

theorem eachOf {step : β → Task Tables Unit} (h : ∀ b, Preserves part (step b)) (bs : List β) :
    Preserves part (Sponsorship.eachOf step bs) := by
  induction bs with
  | nil => exact .ofExcept _
  | cons b rest ih => exact .bind (h b) fun _ => ih

theorem ends {t : Task Tables α} (h : Preserves part t) (w : World Tables) :
    Ends t w (fun _ w' => part w'.state = part w.state) fun _ => True := by
  have hw := h w
  rcases hr : t w with ⟨r, w'⟩
  rw [hr] at hw
  cases r with
  | ok a => exact .of_ok hr hw
  | error f => exact .of_error hr trivial

end Preserves

/-! ## Rows that are there -/

section Rows

variable {α κ : Type} [DecidableEq κ] {key : α → κ} {as : List α} {a : α}

theorem amend_self (hd : (as.map key).Nodup) (ha : a ∈ as) :
    amend key (key a) (fun _ => a) as = as := by
  unfold amend
  conv => rhs; rw [← List.map_id as]
  refine List.map_congr_left fun b hb => ?_
  split
  · rename_i hkey
    exact (List.inj_on_of_nodup_map hd hb ha hkey).symm
  · rfl

end Rows

namespace Keyed

variable {κ α : Type} [DecidableEq κ] {m : Keyed κ α} {k : κ} {a : α}

theorem insert_self (h : m.get? k = some a) : m.insert k a = m := by
  have hmem : (k, a) ∈ m.entries := get?_eq_some_iff.mp h
  have hk : k ∈ m.keys := List.mem_map.mpr ⟨_, hmem, rfl⟩
  apply ext_entries
  unfold insert
  rw [dif_pos hk]
  conv => rhs; rw [← List.map_id m.entries]
  refine List.map_congr_left fun e he => ?_
  by_cases hek : e.1 = k
  · have : e = (k, a) := List.inj_on_of_nodup_map m.nodup he hmem hek
    simp [this]
  · simp [hek]

theorem erase_absent (h : m.get? k = none) : m.erase k = m := by
  have hk : k ∉ m.keys := get?_eq_none_iff.mp h
  apply ext_entries
  unfold erase
  refine List.filter_eq_self.mpr fun e he => ?_
  have hek : e.1 ≠ k := fun hek => hk (List.mem_map.mpr ⟨e, he, hek⟩)
  simpa using hek

end Keyed

end Sponsorship
