import Sponsorship.Proofs.Rules

/-!
# Sponsorship.Proofs.ScheduleSets

Which schedules a campaign may have, and what is said of those that it may not.

* `Repeats`: the first schedule whose kind is that of an earlier one.
* `Lacks`: the first obligatory kind that no schedule has.
* `checkSet_exact`: when a check passes and when it fails on what. The rule for the count of the
  schedules follows from the others (`checkSet_eq`), so it is never the one that is broken.
-/

namespace Sponsorship.Schedule

/-- The schedule is the first whose kind is that of an earlier one. -/
def Repeats (ss : List Schedule) (s : Schedule) : Prop :=
  ∃ before after, ss = before ++ s :: after ∧ (before.map kind).Nodup ∧ s.kind ∈ before.map kind

/-- The kind is the first of the obligatory ones, in their order, that no schedule has. -/
def Lacks (ss : List Schedule) (k : ScheduleKind) : Prop :=
  ∃ before after, ScheduleKind.obligatory = before ++ k :: after ∧
    (∀ j ∈ before, j ∈ ss.map kind) ∧ k ∉ ss.map kind

variable {ss : List Schedule}

theorem exists_repeats_iff {k : ScheduleKind} :
    (∃ s, Repeats ss s ∧ s.kind = k) ↔ firstRepeat? [] (ss.map kind) = some k := by
  rw [firstRepeat?_eq_some_iff]
  constructor
  · rintro ⟨s, ⟨before, after, rfl, hd, hs⟩, rfl⟩
    have hnone := firstRepeat?_nil_eq_none_iff.mpr hd
    exact ⟨before.map kind, after.map kind, List.map_append, hnone, .inr hs⟩
  · rintro ⟨kinds, others, hkinds, hnone, hk⟩
    obtain ⟨before, rest, rfl, rfl, hrest⟩ := List.map_eq_append_iff.mp hkinds
    obtain ⟨s, after, rfl, rfl, -⟩ := List.map_eq_cons_iff.mp hrest
    have hd := firstRepeat?_nil_eq_none_iff.mp hnone
    exact ⟨s, ⟨before, after, rfl, hd, hk.resolve_left List.not_mem_nil⟩, rfl⟩

theorem lacks_iff {k : ScheduleKind} : Lacks ss k ↔
    (ScheduleKind.obligatory.find? fun k => !(ss.map kind).contains k) = some k := by
  simp only [List.find?_eq_some_iff_append, Lacks, Bool.not_not, Bool.not_eq_true',
    List.contains_eq_mem, decide_eq_true_eq, decide_eq_false_iff_not]
  constructor
  · rintro ⟨before, after, hkinds, hthere, hk⟩
    exact ⟨hk, before, after, hkinds, hthere⟩
  · rintro ⟨hk, before, after, hkinds, hthere⟩
    exact ⟨before, after, hkinds, hthere, hk⟩

theorem checkSet_ok_iff : checkSet ss = .ok () ↔
    (ss.map kind).Nodup ∧ ∀ k ∈ ScheduleKind.obligatory, k ∈ ss.map kind :=
  ⟨checkSet_ok, fun ⟨hd, ho⟩ => checkSet_of_kinds hd ho⟩

theorem checkSet_error_iff {rule : Violation} : checkSet ss = .error rule ↔
    (∃ s, Repeats ss s ∧ rule = .scheduleRepeated s.kind) ∨
      ((ss.map kind).Nodup ∧ ∃ k, Lacks ss k ∧ rule = .scheduleLacking k) := by
  have hrepeats : (∃ s, Repeats ss s ∧ rule = .scheduleRepeated s.kind) ↔
      ∃ k, firstRepeat? [] (ss.map kind) = some k ∧ rule = .scheduleRepeated k := by
    simp only [← exists_repeats_iff]
    constructor
    · rintro ⟨s, hs, rfl⟩
      exact ⟨s.kind, ⟨s, hs, rfl⟩, rfl⟩
    · rintro ⟨_, ⟨s, hs, rfl⟩, rfl⟩
      exact ⟨s, hs, rfl⟩
  rw [hrepeats, ← firstRepeat?_nil_eq_none_iff, checkSet_eq]
  simp only [lacks_iff]
  cases firstRepeat? [] (ss.map kind) with
  | some k => simp [eq_comm]
  | none =>
    cases ScheduleKind.obligatory.find? fun k => !(ss.map kind).contains k with
    | some k => simp [eq_comm]
    | none => simp

/-- Schedules pass exactly if no kind occurs twice and invitation, article posting and payment all
occur, whatever their order, identifiers and dates. Otherwise what is said names the kind of the
first schedule that repeats an earlier kind or, if none does, the first obligatory kind that is
lacking. It is never said that there are too few or too many. -/
theorem checkSet_exact (ss : List Schedule) :
    (checkSet ss = .ok () ↔ (ss.map kind).Nodup ∧ .invitation ∈ ss.map kind ∧
      .articlePosting ∈ ss.map kind ∧ .payment ∈ ss.map kind) ∧
    (∀ ss', (ss.map kind).Perm (ss'.map kind) → (checkSet ss = .ok () ↔ checkSet ss' = .ok ())) ∧
    (∀ rule, checkSet ss = .error rule ↔
      (∃ s, Repeats ss s ∧ rule = .scheduleRepeated s.kind) ∨
        ((ss.map kind).Nodup ∧ ∃ k, Lacks ss k ∧ rule = .scheduleLacking k)) ∧
    checkSet ss ≠ .error .scheduleCount := by
  refine ⟨?_, fun ss' hperm => ?_, fun rule => checkSet_error_iff, fun h => ?_⟩
  · rw [checkSet_ok_iff]
    simp only [ScheduleKind.obligatory, List.forall_mem_cons, List.not_mem_nil, false_implies,
      implies_true, and_true]
  · simp only [checkSet_ok_iff, hperm.nodup_iff, hperm.mem_iff]
  · rcases checkSet_error_iff.mp h with ⟨_, _, h⟩ | ⟨_, _, _, h⟩
    · cases h
    · cases h

end Sponsorship.Schedule
