import Sponsorship.Proofs.Ends

/-!
# Sponsorship.Proofs.Supply

New identifiers differ from those that were taken before.

* `Ids.Later ids ids'`: `ids'` is left of `ids` after some identifiers were taken.
* `Ids.Issued ids x`: `x` was taken from the supply, so it is not the next one (`next_ne_of_issued`).
* `numbered_injective`: the numbered supply never gives an identifier twice, also where the number
  has more digits than it is padded to.
* `Minting.Orderly`: work that takes identifiers in their order and fails by a check alone.
-/

namespace Sponsorship

/-- `ids'` is what is left of `ids` after some identifiers were taken. -/
structure Ids.Later (ids ids' : Ids) : Prop where
  name : ids'.name = ids.name
  issued : ids.issued ≤ ids'.issued

/-- An identifier that was taken from the supply. -/
def Ids.Issued {kind : Named} (ids : Ids) (x : Id kind) : Prop :=
  ∃ n, n < ids.issued ∧ x.text = ids.name n

namespace Ids

variable {kind : Named} {ids ids' ids'' : Ids}

theorem Later.refl (ids : Ids) : ids.Later ids := ⟨rfl, Nat.le_refl _⟩

theorem Later.trans (h : ids.Later ids') (h' : ids'.Later ids'') : ids.Later ids'' :=
  ⟨h'.name.trans h.name, Nat.le_trans h.issued h'.issued⟩

theorem later_next (kind : Named) (ids : Ids) : ids.Later (ids.next : Id kind × Ids).2 :=
  ⟨rfl, Nat.le_succ _⟩

theorem Issued.later {x : Id kind} (hx : ids.Issued x) (h : ids.Later ids') : ids'.Issued x := by
  obtain ⟨n, hn, hx⟩ := hx
  exact ⟨n, Nat.lt_of_lt_of_le hn h.issued, by rw [h.name]; exact hx⟩

theorem issued_next (ids : Ids) : (ids.next : Id kind × Ids).2.Issued (ids.next : Id kind × Ids).1 :=
  ⟨ids.issued, Nat.lt_succ_self _, rfl⟩

/-- The next identifier was not taken before. -/
theorem next_ne_of_issued (hinj : Function.Injective ids.name) {x : Id kind} (hx : ids.Issued x) :
    (ids.next : Id kind × Ids).1 ≠ x := by
  obtain ⟨n, hn, hx⟩ := hx
  intro h
  have htext : ids.name ids.issued = x.text := congrArg Id.text h
  have : ids.issued = n := hinj (htext.trans hx)
  omega

/-! ## The numbered supply -/

/-- Leading zeros do not count: the number of an identifier is read off its digits. -/
theorem numbered_injective : Function.Injective numbered := by
  intro m n h
  have hl := congrArg String.toList h
  simp only [numbered, String.toList_append, String.toList_ofList] at hl
  have hd := congrArg (fun cs => Nat.ofDigitChars 10 cs 0) (List.append_cancel_left hl)
  simp only [Nat.ofDigitChars_append, Nat.ofDigitChars_replicate_zero, Nat.mul_zero,
    Nat.ofDigitChars_ten_toDigits] at hd
  omega

end Ids

/-! ## Work that takes identifiers -/

/-- What a check reports: a broken rule, or a schedule or question that a request names and its
campaign does not have. -/
inductive Fault.OfCheck : Fault → Prop
  | rule (v : Violation) : OfCheck (.validation v)
  | schedule (id : ScheduleId) : OfCheck (.notFound (.schedule id))
  | question (id : QuestionId) : OfCheck (.notFound (.question id))

/-- Work that takes identifiers in their order and fails by a check alone. -/
structure Minting.Orderly {α : Type} (m : Minting α) : Prop where
  later : ∀ ids : Ids, ids.Later (m ids).2
  fault : ∀ ids f, (m ids).1 = .error f → f.OfCheck

namespace Minting

variable {α β : Type}

theorem orderly_mint (kind : Named) : Orderly (mint kind) :=
  ⟨Ids.later_next kind, fun _ _ h => by cases h⟩

theorem orderly_obey (r : Except Violation α) : Orderly (obey r) := by
  refine ⟨fun ids => .refl ids, fun ids f h => ?_⟩
  cases r with
  | ok a => cases h
  | error v => cases h; exact .rule v

theorem orderly_throw {f : Fault} (h : f.OfCheck) : Orderly (throw f : Minting α) :=
  ⟨fun ids => .refl ids, fun _ _ hf => by cases hf; exact h⟩

theorem Orderly.bind {m : Minting α} {k : α → Minting β} (hm : Orderly m)
    (hk : ∀ a, Orderly (k a)) : Orderly (m >>= k : Minting β) := by
  constructor
  · intro ids
    have h := hm.later ids
    rw [run_bind]
    rcases hr : m ids with ⟨r, ids'⟩
    rw [hr] at h
    cases r with
    | ok a => exact h.trans ((hk a).later ids')
    | error e => exact h
  · intro ids f h
    rw [run_bind] at h
    rcases hr : m ids with ⟨r, ids'⟩
    rw [hr] at h
    cases r with
    | ok a => exact (hk a).fault ids' f h
    | error e =>
      cases h
      exact hm.fault ids f (by rw [hr])

theorem orderly_mapM {k : α → Minting β} (hk : ∀ a, Orderly (k a)) (as : List α) :
    Orderly (as.mapM k : Minting (List β)) := by
  induction as with
  | nil => rw [List.mapM_nil]; exact orderly_obey (.ok [])
  | cons a rest ih =>
    rw [List.mapM_cons]
    exact (hk a).bind fun b => ih.bind fun bs => orderly_obey (.ok (b :: bs))

end Minting

theorem QuestionInput.orderly_pose (i : QuestionInput) : Minting.Orderly i.pose :=
  (Minting.orderly_mint _).bind fun _ => Minting.orderly_obey _

theorem Questionnaire.orderly_reconciled (old : Keyed QuestionId Question)
    (claimed : List QuestionId) (inputs : List QuestionInput) :
    Minting.Orderly (reconciled old claimed inputs) := by
  induction inputs generalizing claimed with
  | nil => exact Minting.orderly_obey (.ok [])
  | cons i rest ih =>
    have hposed : ∀ claimed, Minting.Orderly
        (do return (← i.pose) :: (← reconciled old claimed rest) : Minting (List Question)) :=
      fun claimed => Minting.Orderly.bind i.orderly_pose fun q => (ih claimed).bind fun qs =>
        Minting.orderly_obey (.ok (q :: qs))
    unfold reconciled
    split
    · exact hposed claimed
    · split
      · exact hposed claimed
      · split
        · exact Minting.orderly_throw (.question _)
        · exact (Minting.orderly_obey _).bind fun q => (ih _).bind fun qs =>
            Minting.orderly_obey (.ok (q :: qs))

theorem QuestionnaireInput.orderly_renewal (q : QuestionnaireInput) (id : CampaignId)
    (old : Option Questionnaire) : Minting.Orderly (q.renewal id old) := by
  cases old with
  | none =>
    exact (Minting.orderly_mapM QuestionInput.orderly_pose _).bind fun _ => Minting.orderly_obey _
  | some old =>
    exact (Questionnaire.orderly_reconciled _ _ _).bind fun _ => Minting.orderly_obey _

theorem AssigneeInput.orderly_enrolment (i : AssigneeInput) (now : Time.Instant) (id : CampaignId) :
    Minting.Orderly (i.enrolment now id) :=
  (Minting.orderly_obey _).bind fun _ => (Minting.orderly_mint _).bind fun _ =>
    Minting.orderly_obey _

theorem ScheduleInput.orderly_schedule (i : ScheduleInput) : Minting.Orderly i.schedule :=
  (Minting.orderly_mint _).bind fun _ => Minting.orderly_obey _

theorem SaveRequest.orderly_opening (r : SaveRequest) (now : Time.Instant) (item : Item)
    (variant : Option Variant) : Minting.Orderly (r.opening now item variant) :=
  (Minting.orderly_mint _).bind fun _ =>
    (Minting.orderly_mapM ScheduleInput.orderly_schedule _).bind fun _ => Minting.orderly_obey _

end Sponsorship
