import Mathlib.Algebra.BigOperators.Group.List.Lemmas
import Mathlib.Algebra.GroupWithZero.Nat
import Sponsorship.Proofs.Idle
import Sponsorship.Query

/-!
# Sponsorship.Proofs.StageCounts

The numbers of assignees in the stages of a campaign, and the lists that they are the lengths of.

* `Tallied counts met`: what the counts say when these stages were met, in whatever order. Counting one
  more keeps it (`Tallied.next`).
* `sorted_counts`: the counts in the order of the stages are still what they were.
* `stage_counts_agree`: what the queries for counts and for lists answer, in every state.
-/

namespace Sponsorship

open Time

/-! ## The order of the stages -/

/-- A stage comes earlier in the course of a campaign than another. -/
def Stage.Earlier (s s' : Stage) : Prop :=
  (words (α := Stage)).idxOf s < (words (α := Stage)).idxOf s'

namespace Stage

/-- Codes are given out in the order of the stages. -/
theorem place_eq (s : Stage) : s.place = (words (α := Stage)).idxOf s + 1 := by
  cases s <;> rfl

theorem earlier_of_place_le {s s' : Stage} (h : s.place ≤ s'.place) (hne : s ≠ s') :
    s.Earlier s' := by
  rw [place_eq, place_eq] at h
  refine Nat.lt_of_le_of_ne (by omega) fun hidx => hne ?_
  have hmem : ∀ x : Stage, x ∈ words (α := Stage) := by intro x; cases x <;> decide
  exact (List.idxOf_inj (hmem s)).mp hidx

end Stage

/-! ## Counting -/

/-- The count that is listed for a stage; a stage that is not listed has none. -/
def countOf (counts : List StageCount) (s : Stage) : Nat :=
  ((counts.find? fun c => c.stage = s).map StageCount.count).getD 0

/-- The counts when these stages were met: one for each of them, which says how often it was. -/
structure Tallied (counts : List StageCount) (met : List Stage) : Prop where
  nodup : (counts.map StageCount.stage).Nodup
  exact : ∀ c ∈ counts, c.count = met.count c.stage
  present : ∀ s, s ∈ counts.map StageCount.stage ↔ s ∈ met

theorem replaceFirst?_eq_none {α : Type} {p : α → Bool} {f : α → α} {as : List α}
    (h : ∀ a ∈ as, p a = false) : replaceFirst? p f as = none := by
  induction as with
  | nil => rfl
  | cons a rest ih =>
    unfold replaceFirst?
    rw [h a List.mem_cons_self, ih fun b hb => h b (List.mem_cons_of_mem a hb)]
    rfl

namespace Tallied

variable {counts counts' : List StageCount} {met : List Stage} {s : Stage}

/-- A stage that was met before: its count grows by one. -/
theorem again (h : Tallied counts met) (hs : s ∈ met) :
    Tallied (amend StageCount.stage s (fun c => { c with count := c.count + 1 }) counts)
      (met ++ [s]) := by
  have hstages : (amend StageCount.stage s (fun c => { c with count := c.count + 1 }) counts).map
      StageCount.stage = counts.map StageCount.stage := map_amend fun _ _ _ => rfl
  refine ⟨hstages ▸ h.nodup, fun c hc => ?_, fun x => ?_⟩
  · rw [List.count_append, List.count_singleton]
    rcases mem_amend.mp hc with ⟨hc, hne⟩ | ⟨o, ho, hos, rfl⟩
    · rw [h.exact c hc, if_neg (by simpa using fun hsc => hne hsc.symm), Nat.add_zero]
    · simp only [hos, BEq.rfl, if_true]
      rw [h.exact o ho, hos]
  · rw [hstages, h.present, List.mem_append, List.mem_singleton]
    exact ⟨.inl, fun hx => hx.elim id fun hx => hx ▸ hs⟩

/-- A stage that was not met before: its count comes last. -/
theorem first (h : Tallied counts met) (hs : s ∉ met) :
    Tallied (counts ++ [{ stage := s, count := 1 }]) (met ++ [s]) := by
  have hnew : s ∉ counts.map StageCount.stage := fun hmem => hs ((h.present s).mp hmem)
  refine ⟨?_, fun c hc => ?_, fun x => ?_⟩
  · rw [List.map_append, List.nodup_append]
    refine ⟨h.nodup, List.nodup_singleton s, fun x hx y hy hxy => hnew ?_⟩
    have hys : y = s := List.mem_singleton.mp hy
    rw [← hys, ← hxy]
    exact hx
  · rw [List.count_append, List.count_singleton]
    rcases List.mem_append.mp hc with hc | hc
    · have hne : ¬ (s == c.stage) = true := fun hsc =>
        hnew (eq_of_beq hsc ▸ List.mem_map_of_mem hc)
      rw [h.exact c hc, if_neg hne, Nat.add_zero]
    · rw [List.mem_singleton.mp hc, List.count_eq_zero.mpr hs]
      simp
  · rw [List.map_append, List.mem_append, List.mem_append, h.present]
    rfl

theorem next (h : Tallied counts met) (s : Stage) : Tallied (countStage counts s) (met ++ [s]) := by
  unfold countStage
  by_cases hs : s ∈ met
  · have hreplaced : replaceFirst? (fun c => c.stage == s) (fun c => { c with count := c.count + 1 })
        counts = some (amend StageCount.stage s (fun c => { c with count := c.count + 1 }) counts) :=
      replaceFirst?_key h.nodup ((h.present s).mpr hs)
    rw [hreplaced]
    exact h.again hs
  · have hnone : replaceFirst? (fun c => c.stage == s) (fun c => { c with count := c.count + 1 })
        counts = none := by
      refine replaceFirst?_eq_none fun c hc => Bool.eq_false_iff.mpr fun hcs => hs ?_
      exact (h.present s).mp (eq_of_beq hcs ▸ List.mem_map_of_mem hc)
    rw [hnone]
    exact h.first hs

/-- Counting stages one after the other, from where some were met. -/
theorem foldl (h : Tallied counts met) (rest : List Stage) :
    Tallied (rest.foldl countStage counts) (met ++ rest) := by
  induction rest generalizing counts met with
  | nil => rwa [List.append_nil]
  | cons s rest ih =>
    rw [List.foldl_cons, ← List.singleton_append, ← List.append_assoc]
    exact ih (h.next s)

theorem of_perm (h : Tallied counts met) (hp : counts'.Perm counts) : Tallied counts' met where
  nodup := (hp.map _).nodup_iff.mpr h.nodup
  exact c hc := h.exact c (hp.mem_iff.mp hc)
  present s := (hp.map _).mem_iff.trans (h.present s)

/-- Nothing is counted that was not met. -/
theorem positive (h : Tallied counts met) : ∀ c ∈ counts, 0 < c.count := by
  intro c hc
  rw [h.exact c hc]
  exact List.count_pos_iff.mpr ((h.present c.stage).mp (List.mem_map_of_mem hc))

theorem countOf_eq (h : Tallied counts met) (s : Stage) : countOf counts s = met.count s := by
  unfold countOf
  cases hf : counts.find? fun c => decide (c.stage = s) with
  | some c =>
    have hs : c.stage = s := by simpa using List.find?_some hf
    rw [Option.map_some, Option.getD_some, h.exact c (List.mem_of_find?_eq_some hf), hs]
  | none =>
    have hs : s ∉ met := by
      intro hs
      obtain ⟨c, hc, hcs⟩ := List.mem_map.mp ((h.present s).mpr hs)
      exact absurd (List.find?_eq_none.mp hf c hc) (by simp [hcs])
    rw [List.count_eq_zero.mpr hs]
    rfl

/-- The stages that are counted are those that were met, each once. -/
theorem sum_eq (h : Tallied counts met) : (counts.map StageCount.count).sum = met.length := by
  have hcounts : counts.map StageCount.count = (counts.map StageCount.stage).map met.count := by
    rw [List.map_map]
    exact List.map_congr_left fun c hc => h.exact c hc
  have hstages : (counts.map StageCount.stage).Perm met.dedup :=
    (List.perm_ext_iff_of_nodup h.nodup (List.nodup_dedup met)).mpr fun s =>
      (h.present s).trans List.mem_dedup.symm
  rw [hcounts, (hstages.map _).sum_eq]
  exact List.sum_map_count_dedup_eq_length met

end Tallied

/-- Counts that are sorted by the places of their stages stand in the order of the stages. -/
theorem sorted_counts {counts : List StageCount} (hd : (counts.map StageCount.stage).Nodup) :
    (counts.mergeSort fun a b => a.stage.place ≤ b.stage.place).Pairwise
      fun a b => a.stage.Earlier b.stage := by
  have hordered : (counts.mergeSort fun a b => a.stage.place ≤ b.stage.place).Pairwise
      fun a b => decide (a.stage.place ≤ b.stage.place) = true :=
    List.pairwise_mergeSort (by simpa using fun a b c => Nat.le_trans)
      (by simpa using fun a b => Nat.le_total _ _) counts
  have hdistinct : (counts.mergeSort fun a b => a.stage.place ≤ b.stage.place).Pairwise
      fun a b => a.stage ≠ b.stage :=
    List.pairwise_map.mp (((List.mergeSort_perm counts _).map StageCount.stage).nodup_iff.mpr hd)
  exact hordered.imp₂ (fun a b hle hne => Stage.earlier_of_place_le (by simpa using hle) hne) hdistinct

/-! ## Counts and lists -/

/-- The assignees in a stage are as many as are met in it. -/
theorem Tables.length_assigneesOf_stage (t : Tables) (id : CampaignId) (s : Stage) :
    (t.assigneesOf id (some s)).length = ((t.assigneesOf id none).map Assignee.stage).count s := by
  have hsame : t.assigneesOf id (some s) = (t.assigneesOf id none).filter fun a => a.stage = s := by
    unfold assigneesOf
    rw [List.filter_filter]
    refine List.filter_congr fun a _ => ?_
    simp [Bool.and_comm]
  rw [hsame, ← List.countP_eq_length_filter, List.count_eq_countP, List.countP_map]
  rfl

/-- The counts that a query answers go with the lists that other queries answer: every stage at most
once and in the order of the stages, none of them empty, each as long as its list, and all of them
together as long as the list of all. -/
structure CountsAgree (s : Service Memory Tables) (w : World Memory) (id : CampaignId)
    (counts : List StageCount) : Prop where
  ordered : counts.Pairwise fun a b => a.stage.Earlier b.stage
  once : (counts.map StageCount.stage).Nodup
  positive : ∀ c ∈ counts, 0 < c.count
  each : ∀ stage, ∃ as, (s.ask (.assignees id (some stage)) w).1 = .ok (.assignees as) ∧
    countOf counts stage = as.length
  all : ∃ as, (s.ask (.assignees id none) w).1 = .ok (.assignees as) ∧
    (counts.map StageCount.count).sum = as.length

/-- In every state of the store in memory, reachable or not, the query for the counts of a campaign
answers, and its counts agree with the lists. -/
theorem stage_counts_agree (w : World Memory) (id : CampaignId) (catalog : Catalog Memory)
    (cap : Nat) (now : Instant) :
    let s : Service Memory Tables := { store := .memory, catalog, assigneeCap := cap, now }
    ∃ counts, (s.ask (.stageCounts id) w).1 = .ok (.stageCounts counts) ∧
      CountsAgree s w id counts := by
  intro s
  let met := (w.state.tables.assigneesOf id none).map Assignee.stage
  let counted := met.foldl countStage []
  have htallied : Tallied counted met := by
    have hnone : Tallied [] [] := ⟨List.nodup_nil, fun _ hc => (by cases hc), fun s => by simp⟩
    exact hnone.foldl met
  have hsorted := htallied.of_perm (List.mergeSort_perm counted fun a b => a.stage.place ≤ b.stage.place)
  have hlist : ∀ stage, (s.ask (.assignees id stage) w).1 =
      .ok (.assignees (w.state.tables.assigneesOf id stage)) := by
    intro stage
    have hread := transact_of_idle (w := w) (Call.idle (c := .listAssignees id stage false) rfl)
    simp only [Service.ask]
    rw [run_map, Service.read, hread]
    rfl
  refine ⟨counted.mergeSort fun a b => a.stage.place ≤ b.stage.place, ?_, ?_⟩
  · have hread := transact_of_idle (w := w) (Call.idle (c := .countStages id) rfl)
    simp only [Service.ask]
    rw [run_map, Service.readStageCounts, Service.read, run_bind, hread]
    rfl
  · refine ⟨sorted_counts htallied.nodup, hsorted.nodup, hsorted.positive, fun stage => ?_, ?_⟩
    · refine ⟨_, hlist (some stage), ?_⟩
      rw [hsorted.countOf_eq, Tables.length_assigneesOf_stage]
    · refine ⟨_, hlist none, ?_⟩
      rw [hsorted.sum_eq]
      exact List.length_map _

end Sponsorship
