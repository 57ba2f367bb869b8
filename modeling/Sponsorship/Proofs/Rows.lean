import Mathlib.Data.List.Find
import Mathlib.Data.List.Induction
import Mathlib.Data.List.Nodup
import Sponsorship.Proofs.Supply
import Sponsorship.Store.Memory

/-!
# Sponsorship.Proofs.Rows

Rows with distinct keys.

* `amend`: the list with a change of the rows that have a key.
* `replaceFirst?_key`: where keys differ, replacing the first row with a key amends it.
* `filter_amend`, `filter_amend_out`: a selection of the rows after a change.
* `find?_key`, `Keyed.get?_ofList`: where keys differ, a row is found by its key.
* `flatMap_amend_perm`, `Keyed.flatMap_insert_perm`: the parts of all rows, when those of one row are
  replaced.
* `Ids.Keys ids ks`: the keys `ks` differ and were all taken from `ids`. New rows take the next one
  (`Keys.concat`), amended and filtered rows keep theirs.
* `Ids.Drawn olds ids ids' ks`: the keys `ks` differ, and each is among `olds` or was taken from
  `ids` before `ids'` was left. They may take the place of `olds` (`Keys.redrawn`).
* `Ids.upcoming`, `Ids.skip`: the next identifiers of a supply, and the supply after them.
-/

namespace Sponsorship

section Amend

variable {α κ : Type} [DecidableEq κ]

/-- The list with `f` applied to the rows whose key is `k`. -/
def amend (key : α → κ) (k : κ) (f : α → α) (as : List α) : List α :=
  as.map fun a => if key a = k then f a else a

variable {key : α → κ} {k : κ} {f : α → α} {as : List α}

theorem amend_of_notMem (h : k ∉ as.map key) : amend key k f as = as := by
  unfold amend
  conv => rhs; rw [← List.map_id as]
  refine List.map_congr_left fun a ha => ?_
  rw [if_neg fun hk => h (List.mem_map.mpr ⟨a, ha, hk⟩), id]

theorem replaceFirst?_key (hd : (as.map key).Nodup) (hk : k ∈ as.map key) :
    replaceFirst? (fun a => key a = k) f as = some (amend key k f as) := by
  induction as with
  | nil => cases hk
  | cons a rest ih =>
    rw [List.map_cons, List.nodup_cons] at hd
    by_cases ha : key a = k
    · have hrest : amend key k f rest = rest := amend_of_notMem (ha ▸ hd.1)
      have hcons : amend key k f (a :: rest) = f a :: amend key k f rest := by simp [amend, ha]
      rw [hcons, hrest]
      simp [replaceFirst?, ha]
    · have hrest : k ∈ rest.map key := by
        rcases List.mem_cons.mp hk with hk | hk
        · exact absurd hk.symm ha
        · exact hk
      have hcons : amend key k f (a :: rest) = a :: amend key k f rest := by simp [amend, ha]
      rw [hcons]
      simp [replaceFirst?, ha, ih hd.2 hrest]

theorem map_amend {β : Type} {g : α → β} (hf : ∀ a ∈ as, key a = k → g (f a) = g a) :
    (amend key k f as).map g = as.map g := by
  unfold amend
  rw [List.map_map]
  refine List.map_congr_left fun a ha => ?_
  simp only [Function.comp]
  split
  · exact hf a ha ‹_›
  · rfl

theorem mem_amend {b : α} :
    b ∈ amend key k f as ↔ (b ∈ as ∧ key b ≠ k) ∨ ∃ a ∈ as, key a = k ∧ b = f a := by
  unfold amend
  rw [List.mem_map]
  constructor
  · rintro ⟨a, ha, rfl⟩
    by_cases hk : key a = k
    · exact .inr ⟨a, ha, hk, if_pos hk⟩
    · rw [if_neg hk]; exact .inl ⟨ha, hk⟩
  · rintro (⟨hb, hk⟩ | ⟨a, ha, hk, rfl⟩)
    · exact ⟨b, hb, if_neg hk⟩
    · exact ⟨a, ha, if_pos hk⟩

/-- Rows that a change does not reach are found again in their order. -/
theorem filter_amend {p : α → Bool} (hf : ∀ a ∈ as, key a = k → p (f a) = p a) :
    (amend key k f as).filter p = amend key k f (as.filter p) := by
  induction as with
  | nil => rfl
  | cons a rest ih =>
    have hrest := ih fun b hb => hf b (List.mem_cons_of_mem a hb)
    have ha := hf a List.mem_cons_self
    have hcons : amend key k f (a :: rest) =
        (if key a = k then f a else a) :: amend key k f rest := rfl
    rw [hcons, List.filter_cons, List.filter_cons, hrest]
    by_cases hk : key a = k
    · rw [if_pos hk, ha hk]
      split
      · simp [amend, hk]
      · rfl
    · rw [if_neg hk]
      split
      · simp [amend, hk]
      · rfl

/-- Rows that a change takes out of a selection are not in it any more. -/
theorem filter_amend_out {p : α → Bool} (hf : ∀ a ∈ as, key a = k → p (f a) = false) :
    (amend key k f as).filter p = (as.filter p).filter fun a => key a ≠ k := by
  induction as with
  | nil => rfl
  | cons a rest ih =>
    have hrest := ih fun b hb => hf b (List.mem_cons_of_mem a hb)
    have ha := hf a List.mem_cons_self
    have hcons : amend key k f (a :: rest) =
        (if key a = k then f a else a) :: amend key k f rest := rfl
    rw [hcons]
    by_cases hk : key a = k
    · rw [if_pos hk, List.filter_cons_of_neg (by simp [ha hk]), hrest]
      by_cases hp : p a = true
      · rw [List.filter_cons_of_pos hp, List.filter_cons_of_neg (by simp [hk])]
      · rw [List.filter_cons_of_neg hp]
    · rw [if_neg hk]
      by_cases hp : p a = true
      · rw [List.filter_cons_of_pos hp, List.filter_cons_of_pos hp, hrest,
          List.filter_cons_of_pos (by simp [hk])]
      · rw [List.filter_cons_of_neg hp, List.filter_cons_of_neg hp, hrest]

theorem find?_amend {p : α → Bool} (hf : ∀ a ∈ as, key a = k → p (f a) = p a) :
    (amend key k f as).find? p = (as.find? p).map fun a => if key a = k then f a else a := by
  unfold amend
  rw [List.find?_map]
  congr 1
  refine List.find?_congr fun a ha => ?_
  simp only [Function.comp]
  split
  · exact hf a ha ‹_›
  · rfl

/-- Where keys differ, a row is found by its key. -/
theorem find?_key {a : α} (hd : (as.map key).Nodup) (ha : a ∈ as) :
    as.find? (fun x => key x = key a) = some a := by
  cases hf : as.find? fun x => decide (key x = key a) with
  | none => exact absurd (List.find?_eq_none.mp hf a ha) (by simp)
  | some b =>
    have hkey : key b = key a := by simpa using List.find?_some hf
    rw [List.inj_on_of_nodup_map hd (List.mem_of_find?_eq_some hf) ha hkey]

/-- The parts of all rows when a row with a key takes the place of the one that has it. -/
theorem flatMap_amend_perm {β : Type} (g : α → List β) {a b : α} (hd : (as.map key).Nodup)
    (ha : a ∈ as) (hk : key a = k) :
    ∃ others, (as.flatMap g).Perm (others ++ g a) ∧
      ((amend key k (fun _ => b) as).flatMap g).Perm (others ++ g b) := by
  induction as with
  | nil => cases ha
  | cons x rest ih =>
    rw [List.map_cons, List.nodup_cons] at hd
    have hcons : amend key k (fun _ => b) (x :: rest) =
        (if key x = k then b else x) :: amend key k (fun _ => b) rest := rfl
    rw [hcons, List.flatMap_cons, List.flatMap_cons]
    by_cases hx : key x = k
    · have hax : a = x := by
        rcases List.mem_cons.mp ha with hax | ha
        · exact hax
        · exact absurd (List.mem_map.mpr ⟨a, ha, hk.trans hx.symm⟩) hd.1
      subst hax
      rw [if_pos hx, amend_of_notMem (hx ▸ hd.1)]
      exact ⟨rest.flatMap g, List.perm_append_comm, List.perm_append_comm⟩
    · have ha : a ∈ rest := by
        rcases List.mem_cons.mp ha with rfl | ha
        · exact absurd hk hx
        · exact ha
      obtain ⟨others, hbefore, hafter⟩ := ih hd.2 ha
      rw [if_neg hx]
      refine ⟨g x ++ others, ?_, ?_⟩
      · rw [List.append_assoc]; exact hbefore.append_left _
      · rw [List.append_assoc]; exact hafter.append_left _

end Amend

/-! ## Maps as rows -/

namespace Keyed

variable {κ α β : Type} [DecidableEq κ] {m : Keyed κ α} {k : κ} {a : α}

theorem get?_eq_some_iff : m.get? k = some a ↔ (k, a) ∈ m.entries := by
  unfold get?
  rw [Option.map_eq_some_iff]
  constructor
  · rintro ⟨e, he, rfl⟩
    have hk : e.1 = k := by simpa using List.find?_some he
    rw [← hk]
    exact List.mem_of_find?_eq_some he
  · intro h
    cases hf : m.entries.find? fun e => decide (e.1 = k) with
    | none => exact absurd (List.find?_eq_none.mp hf (k, a) h) (by simp)
    | some e =>
      have hk : e.1 = k := by simpa using List.find?_some hf
      have : e = (k, a) := List.inj_on_of_nodup_map m.nodup (List.mem_of_find?_eq_some hf) h hk
      exact ⟨e, rfl, by rw [this]⟩

theorem get?_eq_none_iff : m.get? k = none ↔ k ∉ m.keys := by
  constructor
  · intro h hk
    obtain ⟨e, he, rfl⟩ := List.mem_map.mp hk
    rw [get?_eq_some_iff.mpr he] at h
    cases h
  · intro hk
    cases hget : m.get? k with
    | none => rfl
    | some a => exact absurd (List.mem_map.mpr ⟨_, get?_eq_some_iff.mp hget, rfl⟩) hk

/-- Pairs whose keys differ are a map as they stand. -/
theorem ofList_entries {es : List (κ × α)} (hd : (es.map Prod.fst).Nodup) :
    (ofList es).entries = es := by
  induction es using List.reverseRecOn with
  | nil => rfl
  | append_singleton es e ih =>
    rw [List.map_append, List.nodup_append] at hd
    obtain ⟨hes, _, hapart⟩ := hd
    have hlast : ofList (es ++ [e]) = (ofList es).insert e.1 e.2 := List.foldl_append
    have hnew : e.1 ∉ (ofList es).keys := by
      unfold keys
      rw [ih hes]
      exact fun hmem => hapart e.1 hmem e.1 (by simp) rfl
    rw [hlast, insert, dif_neg hnew]
    exact congrArg (fun es => es ++ [e]) (ih hes)

theorem get?_ofList {es : List (κ × α)} (hd : (es.map Prod.fst).Nodup) (h : (k, a) ∈ es) :
    (ofList es).get? k = some a := by
  rw [get?_eq_some_iff, ofList_entries hd]
  exact h

theorem get?_ofList_eq_none_iff {es : List (κ × α)} :
    (ofList es).get? k = none ↔ k ∉ es.map Prod.fst := by
  have hfold : ∀ (es : List (κ × α)) (m : Keyed κ α),
      (es.foldl (fun m e => m.insert e.1 e.2) m).get? k = none ↔
        m.get? k = none ∧ k ∉ es.map Prod.fst := by
    intro es
    induction es with
    | nil => intro m; simp
    | cons e rest ih =>
      intro m
      rw [List.foldl_cons, ih, get?_insert, List.map_cons, List.mem_cons, not_or]
      by_cases hk : k = e.1
      · simp [hk]
      · simp [hk]
  unfold ofList
  rw [hfold, get?_empty]
  simp

/-- Where all pairs with a key have one value, it is what is found. -/
theorem get?_ofList_eq {es : List (κ × α)} {found : Option α}
    (h : ∀ a, (k, a) ∈ es ↔ found = some a) : (ofList es).get? k = found := by
  cases hget : (ofList es).get? k with
  | some a => exact ((h a).mp (mem_of_get?_ofList hget)).symm
  | none =>
    cases found with
    | none => rfl
    | some a =>
      have hmem : (k, a) ∈ es := (h a).mpr rfl
      exact absurd (List.mem_map_of_mem hmem) (get?_ofList_eq_none_iff.mp hget)

/-- The parts of all values when a key takes a value. -/
theorem flatMap_insert_perm (m : Keyed κ α) (k : κ) (a : α) (g : κ × α → List β) :
    ∃ others, (m.entries.flatMap g).Perm
        (others ++ ((m.get? k).map fun o => g (k, o)).getD []) ∧
      ((m.insert k a).entries.flatMap g).Perm (others ++ g (k, a)) := by
  by_cases hk : k ∈ m.keys
  · obtain ⟨e, he, rfl⟩ := List.mem_map.mp hk
    have hinsert : (m.insert e.1 a).entries = amend Prod.fst e.1 (fun _ => (e.1, a)) m.entries := by
      unfold insert amend
      rw [dif_pos hk]
      refine List.map_congr_left fun x _ => ?_
      by_cases hx : x.1 = e.1 <;> simp [hx]
    rw [get?_eq_some_iff.mpr he, hinsert]
    exact flatMap_amend_perm g m.nodup he rfl
  · have hinsert : (m.insert k a).entries = m.entries ++ [(k, a)] := by
      unfold insert; rw [dif_neg hk]
    rw [get?_eq_none_iff.mpr hk, hinsert]
    exact ⟨m.entries.flatMap g, by simp, by simp⟩

end Keyed

/-! ## Keys from a supply -/

/-- Keys that differ and were all taken from the supply. -/
structure Ids.Keys (ids : Ids) {kind : Named} (ks : List (Id kind)) : Prop where
  nodup : ks.Nodup
  issued : ∀ k ∈ ks, ids.Issued k

namespace Ids.Keys

variable {ids ids' : Ids} {kind : Named} {ks ks' : List (Id kind)}

theorem nil (ids : Ids) : ids.Keys ([] : List (Id kind)) :=
  ⟨List.nodup_nil, fun _ h => by cases h⟩

theorem later (h : ids.Keys ks) (hl : ids.Later ids') : ids'.Keys ks :=
  ⟨h.nodup, fun k hk => (h.issued k hk).later hl⟩

theorem sublist (h : ids.Keys ks) (hs : ks'.Sublist ks) : ids.Keys ks' :=
  ⟨h.nodup.sublist hs, fun k hk => h.issued k (hs.subset hk)⟩

theorem next_notMem (h : ids.Keys ks) (hinj : Function.Injective ids.name) :
    (ids.next : Id kind × Ids).1 ∉ ks :=
  fun hk => next_ne_of_issued hinj (h.issued _ hk) rfl

theorem concat (h : ids.Keys ks) (hinj : Function.Injective ids.name) {k : Id kind}
    (hk : k = (ids.next : Id kind × Ids).1) (hl : (ids.next : Id kind × Ids).2.Later ids') :
    ids'.Keys (ks ++ [k]) := by
  subst hk
  constructor
  · rw [List.nodup_append]
    refine ⟨h.nodup, by simp, fun x hx y hy => ?_⟩
    rw [List.mem_singleton.mp hy]
    exact (next_ne_of_issued hinj (h.issued x hx)).symm
  · intro x hx
    rcases List.mem_append.mp hx with hx | hx
    · exact (h.issued x hx).later ((later_next kind ids).trans hl)
    · rw [List.mem_singleton.mp hx]; exact (issued_next ids).later hl

theorem perm (h : ids.Keys ks) (hp : ks.Perm ks') : ids.Keys ks' :=
  ⟨hp.nodup_iff.mp h.nodup, fun k hk => h.issued k (hp.mem_iff.mpr hk)⟩

end Ids.Keys

/-! ## Keys that take the place of others -/

/-- An identifier that was taken from `ids` before `ids'` was left. -/
def Ids.Taken {kind : Named} (ids ids' : Ids) (x : Id kind) : Prop :=
  ∃ n, ids.issued ≤ n ∧ n < ids'.issued ∧ x.text = ids.name n

/-- Keys that differ, each of which is among `olds` or was taken from `ids` before `ids'` was left. -/
structure Ids.Drawn {kind : Named} (olds : List (Id kind)) (ids ids' : Ids) (ks : List (Id kind)) :
    Prop where
  later : ids.Later ids'
  nodup : ks.Nodup
  origin : ∀ k ∈ ks, k ∈ olds ∨ ids.Taken ids' k

namespace Ids

variable {ids ids' ids'' : Ids} {kind : Named} {x : Id kind} {olds ks : List (Id kind)}

theorem taken_next (ids : Ids) : ids.Taken (ids.next : Id kind × Ids).2 (ids.next : Id kind × Ids).1 :=
  ⟨ids.issued, Nat.le_refl _, Nat.lt_succ_self _, rfl⟩

theorem Taken.mono {ids₀ : Ids} (h : ids.Taken ids' x) (hl : ids₀.Later ids) (hl' : ids'.Later ids'') :
    ids₀.Taken ids'' x := by
  obtain ⟨n, hn, hn', hx⟩ := h
  exact ⟨n, Nat.le_trans hl.issued hn, Nat.lt_of_lt_of_le hn' hl'.issued, by rw [← hl.name]; exact hx⟩

theorem Taken.issued (h : ids.Taken ids' x) (hl : ids.Later ids') : ids'.Issued x := by
  obtain ⟨n, _, hn, hx⟩ := h
  exact ⟨n, hn, by rw [hl.name]; exact hx⟩

theorem Taken.not_issued (hinj : Function.Injective ids.name) (h : ids.Taken ids' x) :
    ¬ ids.Issued x := by
  obtain ⟨n, hn, _, hx⟩ := h
  rintro ⟨m, hm, hx'⟩
  have : n = m := hinj (hx.symm.trans hx')
  omega

namespace Drawn

theorem nil (olds : List (Id kind)) (ids : Ids) : Drawn olds ids ids [] :=
  ⟨.refl _, List.nodup_nil, fun _ h => by cases h⟩

/-- A key that is taken next, in front of others that are taken later. -/
theorem next (hinj : Function.Injective ids.name) (holds : ∀ k ∈ olds, ids.Issued k)
    (h : Drawn olds (ids.next : Id kind × Ids).2 ids' ks) :
    Drawn olds ids ids' ((ids.next : Id kind × Ids).1 :: ks) := by
  have hl := later_next kind ids
  constructor
  · exact hl.trans h.later
  · refine List.nodup_cons.mpr ⟨fun hmem => ?_, h.nodup⟩
    rcases h.origin _ hmem with hold | htaken
    · exact next_ne_of_issued hinj (holds _ hold) rfl
    · exact htaken.not_issued (by rw [hl.name]; exact hinj) (issued_next ids)
  · intro k hk
    rcases List.mem_cons.mp hk with rfl | hk
    · exact .inr ((taken_next ids).mono (.refl _) h.later)
    · exact (h.origin k hk).imp_right fun ht => ht.mono hl (.refl _)

end Drawn

/-- Keys that are drawn take the place of the old ones beside the others. -/
theorem Keys.redrawn {others : List (Id kind)} (h : ids.Keys (others ++ olds))
    (hinj : Function.Injective ids.name) (hd : Drawn olds ids ids' ks) : ids'.Keys (others ++ ks) := by
  obtain ⟨hothers, _, hapart⟩ := List.nodup_append.mp h.nodup
  constructor
  · refine List.nodup_append.mpr ⟨hothers, hd.nodup, fun x hx y hy hxy => ?_⟩
    subst hxy
    rcases hd.origin x hy with hold | htaken
    · exact hapart x hx x hold rfl
    · exact htaken.not_issued hinj (h.issued x (List.mem_append_left _ hx))
  · intro x hx
    rcases List.mem_append.mp hx with hx | hx
    · exact (h.issued x (List.mem_append_left _ hx)).later hd.later
    · rcases hd.origin x hx with hold | htaken
      · exact (h.issued x (List.mem_append_right _ hold)).later hd.later
      · exact htaken.issued hd.later

/-! ## The next identifiers in a row -/

/-- The texts of the next identifiers, in the order in which they are taken. -/
def upcoming (ids : Ids) (n : Nat) : List String :=
  (List.range n).map fun k => ids.name (ids.issued + k)

/-- The supply after the next identifiers. -/
def skip (ids : Ids) (n : Nat) : Ids := { ids with issued := ids.issued + n }

theorem skip_skip (ids : Ids) (m n : Nat) : (ids.skip m).skip n = ids.skip (m + n) := by
  simp only [skip, Nat.add_assoc]

theorem later_skip (ids : Ids) (n : Nat) : ids.Later (ids.skip n) := ⟨rfl, Nat.le_add_right _ _⟩

theorem upcoming_add (ids : Ids) (m n : Nat) :
    ids.upcoming (m + n) = ids.upcoming m ++ (ids.skip m).upcoming n := by
  simp only [upcoming, skip, List.range_add, List.map_append, List.map_map, Function.comp_def,
    Nat.add_assoc]

theorem upcoming_one (kind : Named) (ids : Ids) :
    ids.upcoming 1 = [(ids.next : Id kind × Ids).1.text] := rfl

theorem nodup_upcoming (hinj : Function.Injective ids.name) (n : Nat) : (ids.upcoming n).Nodup :=
  List.nodup_range.map fun _ _ h => Nat.add_left_cancel (hinj h)

theorem taken_of_mem_upcoming {n : Nat} (hx : x.text ∈ ids.upcoming n) :
    ids.Taken (ids.skip n) x := by
  obtain ⟨k, hk, hname⟩ := List.mem_map.mp hx
  exact ⟨ids.issued + k, Nat.le_add_right _ _,
    Nat.add_lt_add_left (List.mem_range.mp hk) _, hname.symm⟩

/-- Keys that are taken next, one after the other. -/
theorem drawn_upcoming (hinj : Function.Injective ids.name) {n : Nat}
    (hks : ks.map Id.text = ids.upcoming n) : Drawn olds ids (ids.skip n) ks where
  later := later_skip ids n
  nodup := by
    have hnodup := nodup_upcoming hinj n
    rw [← hks] at hnodup
    exact hnodup.of_map Id.text
  origin k hk := .inr (taken_of_mem_upcoming (hks ▸ List.mem_map_of_mem hk))

end Ids

end Sponsorship
