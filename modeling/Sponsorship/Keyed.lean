/-!
# Keyed values

A finite map as a list of pairs in order of first insertion.

* `Keyed`: pairs whose keys differ.
* `Keyed.insert`: a key that is present keeps its place and takes the new value.
* `Keyed.get?`, `Keyed.size`, `Keyed.erase`; `get?_insert` and `get?_erase` say what is found after
  a change.
* `firstRepeat?`: where a list that may not hold anything twice does.
-/

namespace Sponsorship

/-- The first element that occurs a second time; `seen` holds those met before. -/
def firstRepeat? {α : Type} [DecidableEq α] (seen : List α) : List α → Option α
  | [] => none
  | a :: rest => if a ∈ seen then some a else firstRepeat? (a :: seen) rest

theorem firstRepeat?_eq_none_iff {α : Type} [DecidableEq α] {seen as : List α} :
    firstRepeat? seen as = none ↔ as.Nodup ∧ ∀ a ∈ as, a ∉ seen := by
  induction as generalizing seen with
  | nil => simp [firstRepeat?]
  | cons a rest ih =>
    unfold firstRepeat?
    by_cases h : a ∈ seen
    · simp [h]
    · rw [if_neg h, ih, List.nodup_cons]
      constructor
      · rintro ⟨hr, hs⟩
        refine ⟨⟨fun ha => hs a ha List.mem_cons_self, hr⟩, ?_⟩
        intro b hb
        rcases List.mem_cons.mp hb with rfl | hb
        · exact h
        · exact fun hbs => hs b hb (List.mem_cons_of_mem a hbs)
      · rintro ⟨⟨ha, hr⟩, hs⟩
        refine ⟨hr, fun b hb hbs => ?_⟩
        rcases List.mem_cons.mp hbs with rfl | hbs
        · exact ha hb
        · exact hs b (List.mem_cons_of_mem a hb) hbs

theorem firstRepeat?_nil_eq_none_iff {α : Type} [DecidableEq α] {as : List α} :
    firstRepeat? [] as = none ↔ as.Nodup := by
  rw [firstRepeat?_eq_none_iff]
  exact and_iff_left fun _ _ => List.not_mem_nil

/-- Up to the first repeat a list is one that repeats nothing. -/
theorem firstRepeat?_eq_some_iff {α : Type} [DecidableEq α] {seen as : List α} {a : α} :
    firstRepeat? seen as = some a ↔ ∃ before after, as = before ++ a :: after ∧
      firstRepeat? seen before = none ∧ (a ∈ seen ∨ a ∈ before) := by
  induction as generalizing seen with
  | nil => simp [firstRepeat?]
  | cons b rest ih =>
    by_cases hb : b ∈ seen
    · rw [firstRepeat?, if_pos hb]
      constructor
      · intro h
        cases h
        exact ⟨[], rest, rfl, rfl, .inl hb⟩
      · rintro ⟨before, after, has, hnone, -⟩
        cases before with
        | nil => cases has; rfl
        | cons _ before =>
          cases has
          rw [firstRepeat?, if_pos hb] at hnone
          cases hnone
    · rw [firstRepeat?, if_neg hb, ih]
      constructor
      · rintro ⟨before, after, rfl, hnone, ha⟩
        refine ⟨b :: before, after, rfl, by rwa [firstRepeat?, if_neg hb], ?_⟩
        simpa [or_assoc, or_left_comm] using ha
      · rintro ⟨before, after, has, hnone, ha⟩
        cases before with
        | nil =>
          cases has
          exact absurd (ha.resolve_right List.not_mem_nil) hb
        | cons _ before =>
          cases has
          rw [firstRepeat?, if_neg hb] at hnone
          exact ⟨before, after, rfl, hnone, by simpa [or_assoc, or_left_comm] using ha⟩

theorem mem_of_firstRepeat? {α : Type} [DecidableEq α] {seen as : List α} {a : α}
    (h : firstRepeat? seen as = some a) : a ∈ as := by
  obtain ⟨before, after, rfl, -⟩ := firstRepeat?_eq_some_iff.mp h
  exact List.mem_append_right before List.mem_cons_self

/-- Pairs of a key and a value; no key occurs twice. -/
structure Keyed (κ α : Type) where
  entries : List (κ × α) := []
  nodup : (entries.map Prod.fst).Nodup := by exact List.nodup_nil

namespace Keyed

variable {κ α : Type} [DecidableEq κ]

instance : Inhabited (Keyed κ α) := ⟨{}⟩

def keys (m : Keyed κ α) : List κ := m.entries.map Prod.fst

def size (m : Keyed κ α) : Nat := m.entries.length

def isEmpty (m : Keyed κ α) : Bool := m.entries.isEmpty

def get? (m : Keyed κ α) (k : κ) : Option α := (m.entries.find? fun e => e.1 = k).map Prod.snd

omit [DecidableEq κ] in
theorem map_fst_replace (es : List (κ × α)) (p : κ → Bool) (f : κ → α → α) :
    (es.map fun e => if p e.1 then (e.1, f e.1 e.2) else e).map Prod.fst = es.map Prod.fst := by
  induction es with
  | nil => rfl
  | cons e es ih =>
    simp only [List.map_cons, ih]
    split <;> rfl

/-- The map with value `a` for key `k`. -/
def insert (m : Keyed κ α) (k : κ) (a : α) : Keyed κ α :=
  if h : k ∈ m.keys then
    { entries := m.entries.map fun e => if decide (e.1 = k) then (e.1, a) else e
      nodup := by
        rw [map_fst_replace m.entries (fun x => decide (x = k)) (fun _ _ => a)]
        exact m.nodup }
  else
    { entries := m.entries ++ [(k, a)]
      nodup := by
        rw [List.map_append, List.nodup_append]
        refine ⟨m.nodup, by simp, ?_⟩
        intro x hx y hy
        simp only [List.map_cons, List.map_nil, List.mem_singleton] at hy
        subst hy
        intro heq
        exact h (heq ▸ hx) }

def erase (m : Keyed κ α) (k : κ) : Keyed κ α :=
  { entries := m.entries.filter fun e => e.1 ≠ k
    nodup := List.Nodup.sublist (List.Sublist.map _ List.filter_sublist) m.nodup }

/-- The map of a list of pairs; of two pairs with one key the later counts. -/
def ofList (es : List (κ × α)) : Keyed κ α := es.foldl (fun m e => m.insert e.1 e.2) {}

/-! ## What is found -/

theorem mem_insert {m : Keyed κ α} {k : κ} {a : α} {e : κ × α} (h : e ∈ (m.insert k a).entries) :
    e = (k, a) ∨ e ∈ m.entries := by
  unfold insert at h
  split at h
  · obtain ⟨x, hx, rfl⟩ := List.mem_map.mp h
    by_cases hk : x.1 = k
    · simp [hk]
    · simp [hk, hx]
  · rcases List.mem_append.mp h with h | h
    · exact .inr h
    · exact .inl (List.mem_singleton.mp h)

@[simp] theorem get?_empty (k : κ) : ({} : Keyed κ α).get? k = none := rfl

theorem get?_erase (m : Keyed κ α) (k j : κ) :
    (m.erase k).get? j = if j = k then none else m.get? j := by
  unfold get? erase
  rw [List.find?_filter]
  by_cases h : j = k
  · subst h
    rw [if_pos rfl, List.find?_eq_none.mpr fun e _ => by simp]
    rfl
  · rw [if_neg h]
    congr 2
    funext e
    by_cases he : e.1 = j
    · simp [he, h]
    · simp [he]

theorem get?_erase_some {m : Keyed κ α} {k j : κ} {a : α} :
    (m.erase k).get? j = some a ↔ m.get? j = some a ∧ j ≠ k := by
  rw [get?_erase]
  by_cases h : j = k <;> simp [h]

theorem get?_insert (m : Keyed κ α) (k : κ) (a : α) (j : κ) :
    (m.insert k a).get? j = if j = k then some a else m.get? j := by
  unfold insert
  split
  · rename_i h
    unfold get?
    rw [List.find?_map]
    have hp : ((fun e : κ × α => decide (e.1 = j)) ∘
        fun e => if decide (e.1 = k) then (e.1, a) else e) = fun e => decide (e.1 = j) := by
      funext e
      by_cases he : e.1 = k <;> simp [he]
    rw [hp, Option.map_map]
    by_cases hj : j = k
    · subst hj
      obtain ⟨e, he, hek⟩ := List.mem_map.mp h
      cases hf : m.entries.find? fun e => decide (e.1 = j) with
      | none => exact absurd hek (by simpa using List.find?_eq_none.mp hf e he)
      | some e' =>
        have : e'.1 = j := by simpa using List.find?_some hf
        simp [this]
    · cases hf : m.entries.find? fun e => decide (e.1 = j) with
      | none => simp [hj]
      | some e' =>
        have : e'.1 = j := by simpa using List.find?_some hf
        simp [this, hj]
  · rename_i h
    unfold get?
    rw [List.find?_append]
    by_cases hj : j = k
    · subst hj
      have hf : (m.entries.find? fun e => decide (e.1 = j)) = none :=
        List.find?_eq_none.mpr fun e he hek => h (List.mem_map.mpr ⟨e, he, by simpa using hek⟩)
      simp [hf]
    · have hk : ¬ k = j := fun h => hj h.symm
      simp [hj, hk]

theorem mem_of_get?_ofList {es : List (κ × α)} {k : κ} {a : α} (h : (ofList es).get? k = some a) :
    (k, a) ∈ es := by
  have hfold : ∀ (es : List (κ × α)) (m : Keyed κ α),
      (es.foldl (fun m e => m.insert e.1 e.2) m).get? k = some a →
      (k, a) ∈ es ∨ m.get? k = some a := by
    intro es
    induction es with
    | nil => exact fun m h => .inr h
    | cons e rest ih =>
      intro m h
      rcases ih _ h with h | h
      · exact .inl (List.mem_cons_of_mem e h)
      · rw [get?_insert] at h
        split at h
        · rename_i hk
          cases h
          exact .inl (by rw [hk]; exact List.mem_cons_self)
        · exact .inr h
  rcases hfold es {} h with h | h
  · exact h
  · rw [get?_empty] at h; cases h

end Keyed

end Sponsorship
