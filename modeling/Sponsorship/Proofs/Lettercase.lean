import Sponsorship.Proofs.Listings

/-!
# Sponsorship.Proofs.Lettercase

What a search by name finds when the name contains the text as it stands.

A text and a name are compared in lower case. Every character has one lower case form, but for the
capital sigma, which is written differently at the end of a word. So the lower case form of a part of
a name need not be a part of the name's.

* `endsWord`: what stands around a capital sigma makes it a final one.
* `lowerBetween`: the lower case form of a text within another.
* `ReadAlike`: the capital sigmas of a text are the same ones, final or not, within a name.
* `name_search_finds`: a search finds a name that contains the text, where they are.
* `name_search_loses_light`: a name that contains the text and is not found.
-/

namespace Sponsorship

namespace Text

/-! ## The lower case form of a part -/

/-- A capital sigma between these texts is a final one. The first is given last character first. -/
def endsWord (before after : List Char) : Bool := meetsCased before && !meetsCased after

/-- The lower case form of a character between two texts. -/
def lowerOne (before : List Char) (c : Char) (after : List Char) : List Char :=
  if c = 'Σ' then [if endsWord before after then 'ς' else 'σ'] else lowerChar c

/-- The lower case form of a text between two texts, of which the first is given last character
first. -/
def lowerBetween (before : List Char) : List Char → List Char → List Char
  | [], _ => []
  | c :: cs, after => lowerOne before c (cs ++ after) ++ lowerBetween (c :: before) cs after

theorem lowerAfter_cons (before : List Char) (c : Char) (cs : List Char) :
    lowerAfter before (c :: cs) = lowerOne before c cs ++ lowerAfter (c :: before) cs := by
  have hsigma : (c.toNat = 0x3A3) = (c = 'Σ') := by
    refine propext ⟨fun h => Char.ext (UInt32.toNat_inj.mp h), fun h => ?_⟩
    rw [h]
    rfl
  have hforms : ∀ b : Bool, Char.ofNat (if b then 0x3C2 else 0x3C3) = if b then 'ς' else 'σ' := by
    decide
  simp only [lowerAfter, hforms, hsigma]
  rfl

theorem lowerAfter_append (before cs after : List Char) :
    lowerAfter before (cs ++ after) =
      lowerBetween before cs after ++ lowerAfter (cs.reverse ++ before) after := by
  induction cs generalizing before with
  | nil => rfl
  | cons c cs ih =>
    rw [List.cons_append, lowerAfter_cons, ih, lowerBetween, List.append_assoc, List.reverse_cons,
      List.append_assoc, List.singleton_append]

theorem lowerAfter_eq_between (before cs : List Char) :
    lowerAfter before cs = lowerBetween before cs [] := by
  simpa [lowerAfter] using lowerAfter_append before cs []

/-! ## Sigmas -/

/-- The capital sigmas of a text are final ones within one pair of texts exactly if they are within
the other. -/
def SigmasAgree (before before' part after after' : List Char) : Prop :=
  ∀ x y, part = x ++ 'Σ' :: y →
    endsWord (x.reverse ++ before) (y ++ after) = endsWord (x.reverse ++ before') (y ++ after')

theorem sigmasAgree_cons {before before' : List Char} {c : Char} {cs after after' : List Char} :
    SigmasAgree before before' (c :: cs) after after' ↔
      (c = 'Σ' → endsWord before (cs ++ after) = endsWord before' (cs ++ after')) ∧
        SigmasAgree (c :: before) (c :: before') cs after after' := by
  constructor
  · intro h
    refine ⟨fun hc => h [] cs (by rw [hc]; rfl), fun x y hcs => ?_⟩
    simpa using h (c :: x) y (by rw [hcs]; rfl)
  · rintro ⟨hhead, htail⟩ x y hcs
    cases x with
    | nil =>
      obtain ⟨rfl, rfl⟩ := List.cons.inj hcs
      exact hhead rfl
    | cons _ x =>
      obtain ⟨rfl, hrest⟩ := List.cons.inj hcs
      simpa using htail x y hrest

theorem lowerOne_length (before before' after after' : List Char) (c : Char) :
    (lowerOne before c after).length = (lowerOne before' c after').length := by
  unfold lowerOne
  split <;> rfl

theorem lowerOne_eq_iff {before before' after after' : List Char} {c : Char} :
    lowerOne before c after = lowerOne before' c after' ↔
      (c = 'Σ' → endsWord before after = endsWord before' after') := by
  unfold lowerOne
  by_cases hc : c = 'Σ'
  · simp only [hc, if_true, forall_const]
    cases endsWord before after <;> cases endsWord before' after' <;> decide
  · simp only [hc, if_false, false_implies]

/-- Only capital sigmas tell the lower case forms of a text within others apart. -/
theorem lowerBetween_eq_iff {before before' part after after' : List Char} :
    lowerBetween before part after = lowerBetween before' part after' ↔
      SigmasAgree before before' part after after' := by
  induction part generalizing before before' with
  | nil => exact ⟨fun _ x y h => absurd h (by simp), fun _ => rfl⟩
  | cons c cs ih =>
    rw [lowerBetween, lowerBetween, sigmasAgree_cons, ← ih, ← lowerOne_eq_iff]
    constructor
    · exact fun h => List.append_inj h (lowerOne_length ..)
    · rintro ⟨hhead, htail⟩
      rw [hhead, htail]

/-- The capital sigmas of a text are final ones within a name exactly if they are on their own. -/
def ReadAlike (front part back : List Char) : Prop := SigmasAgree front.reverse [] part back []

theorem readAlike_of_not_mem {front part back : List Char} (h : 'Σ' ∉ part) :
    ReadAlike front part back := by
  intro x y hpart
  rw [hpart] at h
  simp at h

example : ReadAlike [] "ΦΩΣ".toList " ".toList ∧ ¬ ReadAlike [] "ΦΩΣ".toList "ΦΟΡΟΣ".toList := by
  simp only [ReadAlike, ← lowerBetween_eq_iff]
  decide

theorem lowercase_toList (s : String) : (lowercase s).toList = lowerBetween [] s.toList [] := by
  rw [lowercase, String.toList_ofList, lowerAfter_eq_between]

/-- The lower case form of a text is that of its parts, each where it stands. -/
theorem lowercase_parts {s : String} {front part back : List Char}
    (hs : s.toList = front ++ part ++ back) :
    (lowercase s).toList = lowerBetween [] front (part ++ back) ++
      lowerBetween front.reverse part back ++
        lowerBetween (part.reverse ++ front.reverse) back [] := by
  rw [lowercase, String.toList_ofList, hs, List.append_assoc, lowerAfter_append, lowerAfter_append,
    lowerAfter_eq_between, List.append_nil, List.append_assoc]

/-- The lower case form of a part of a name is that of the part on its own exactly if its capital
sigmas are read alike. -/
theorem lowerBetween_eq_lowercase_iff {front back : List Char} {part : String} :
    lowerBetween front.reverse part.toList back = (lowercase part).toList ↔
      ReadAlike front part.toList back := by
  rw [lowercase_toList, lowerBetween_eq_iff]
  rfl

end Text

open Text Time

/-! ## Searching -/

/-- A search for a name alone. -/
def SearchCriteria.named (query : String) : SearchCriteria := { name := some query }

theorem SearchCriteria.meets_named {query : String} (hquery : query ≠ "") (c : Campaign) :
    (named query).Meets c ↔ (lowercase query).toList <:+: (lowercase c.name).toList := by
  constructor
  · exact fun h => h.name query rfl hquery
  · intro h
    refine ⟨fun n hn _ => ?_, nofun, nofun⟩
    cases hn
    exact h

section Searches

variable {s : Shelf} {w : World Memory} {condition : ListCondition}

/-- A first page that is long enough has every campaign that is looked for, and no other. -/
theorem search_run (cap : Nat) (now : Instant) (h : s.Filed) (hw : ∀ c ∈ w.state.tables.campaigns, c.Refers)
    (criteria : SearchCriteria) (hsorts : condition.Sorts) (hoffset : condition.offset = 0)
    (hlimit : w.state.tables.campaigns.length ≤ condition.limit) :
    ∃ page, ((s.service cap now).ask (.search criteria condition) w).1 = .ok (.page page) ∧
      ∀ c, c ∈ page.campaigns ↔ ∃ row ∈ w.state.tables.campaigns, criteria.Meets row ∧
        c = s.current row := by
  have hlength : (s.listing w.state.tables criteria.admits condition.sorts).length ≤
      condition.limit := by
    unfold Shelf.listing
    rw [List.length_map, (sortCampaigns_perm _ _).length_eq]
    exact (List.length_filter_le _ _).trans hlimit
  refine ⟨_, congrArg Prod.fst (asks_search h criteria condition w hsorts hw), fun c => ?_⟩
  rw [hoffset, List.drop_zero, List.take_of_length_le hlength]
  exact Shelf.mem_listing fun _ => SearchCriteria.admits_iff

end Searches

/-- After every history of commands, with every catalog held in memory, a search for a name is answered
with the campaigns whose name in lower case contains the text in lower case. Where a name contains the
text as it stands, its lower case form has the text between its capital sigmas as they are read there;
this is the lower case form of the text exactly if they are read alike on their own, and then the
campaign is found. So it is if the text has no capital sigma. -/
theorem name_search_finds (history : List Visit) (items : List Item) (variants : List Variant)
    (cap : Nat) (now : Instant) {c : Campaign}
    (hc : c ∈ (World.start.after history).state.tables.campaigns) {query : String}
    (hquery : query ≠ "") {condition : ListCondition} (hsorts : condition.Sorts)
    (hoffset : condition.offset = 0)
    (hlimit : (World.start.after history).state.tables.campaigns.length ≤ condition.limit) :
    ∃ page, (((Shelf.stocked items variants).service cap now).ask
        (.search (.named query) condition) (World.start.after history)).1 = .ok (.page page) ∧
      ((Shelf.stocked items variants).current c ∈ page.campaigns ↔
        (lowercase query).toList <:+: (lowercase c.name).toList) ∧
      ∀ front back, c.name.toList = front ++ query.toList ++ back →
        (lowercase c.name).toList = lowerBetween [] front (query.toList ++ back) ++
          lowerBetween front.reverse query.toList back ++
            lowerBetween (query.toList.reverse ++ front.reverse) back [] ∧
        (lowerBetween front.reverse query.toList back = (lowercase query).toList ↔
          ReadAlike front query.toList back) ∧
        (ReadAlike front query.toList back ∨ 'Σ' ∉ query.toList →
          (Shelf.stocked items variants).current c ∈ page.campaigns) := by
  have h := Shelf.filed_stocked items variants
  have hw : ∀ c ∈ (World.start.after history).state.tables.campaigns, c.Refers := fun c hc =>
    ((committed_rows_valid history).campaigns c hc).refers
  have hids := (sound_after history).campaigns.nodup
  obtain ⟨page, hpage, hmembers⟩ := search_run cap now h hw (.named query) hsorts hoffset
    hlimit
  have hfound : (Shelf.stocked items variants).current c ∈ page.campaigns ↔
      (lowercase query).toList <:+: (lowercase c.name).toList := by
    rw [hmembers, ← SearchCriteria.meets_named hquery]
    constructor
    · rintro ⟨row, hrow, hmeets, hcurrent⟩
      -- rows with one identifier are one row
      have hid : row.id = c.id := (congrArg Campaign.id hcurrent).symm
      rwa [← List.inj_on_of_nodup_map hids hrow hc hid]
    · exact fun hmeets => ⟨c, hc, hmeets, rfl⟩
  refine ⟨page, hpage, hfound, fun front back hname => ?_⟩
  have hparts := lowercase_parts hname
  refine ⟨hparts, lowerBetween_eq_lowercase_iff, fun halike => hfound.mpr ?_⟩
  have halike : ReadAlike front query.toList back := halike.elim id readAlike_of_not_mem
  rw [hparts, lowerBetween_eq_lowercase_iff.mpr halike]
  exact ⟨_, _, rfl⟩

/-- A campaign with sigmas in its name. -/
def morningStar : List Visit := [visitAt 0 (.save { reviewingRequest with name := "ΦΩΣΦΟΡΟΣ" })]

theorem morningStar_row : ∃ c, (World.start.after morningStar).state.tables.campaigns = [c] ∧
    c.name = "ΦΩΣΦΟΡΟΣ" := by
  have hnames : (World.start.after morningStar).state.tables.campaigns.map (fun c => c.name) =
      ["ΦΩΣΦΟΡΟΣ"] := by decide +kernel
  exact List.map_eq_singleton_iff.mp hnames

/-- The second part of the name is found: its sigma ends both. -/
theorem name_search_finds_bearer : ∃ c page, "ΦΩΣΦΟΡΟΣ" = c.name ∧
    (((Shelf.stocked [] []).service standardAssigneeCap ⟨1, 0⟩).ask
      (.search (.named "ΦΟΡΟΣ") ⟨0, 10, []⟩) (World.start.after morningStar)).1 = .ok (.page page) ∧
    (Shelf.stocked [] []).current c ∈ page.campaigns := by
  obtain ⟨c, hrows, hc⟩ := morningStar_row
  have hstored : c ∈ (World.start.after morningStar).state.tables.campaigns := by
    rw [hrows]
    exact List.mem_singleton_self c
  have hasked : "ΦΟΡΟΣ" ≠ "" := by decide
  have hsorts : (⟨0, 10, []⟩ : ListCondition).Sorts := nofun
  have hlimit : (World.start.after morningStar).state.tables.campaigns.length ≤ 10 := by
    rw [hrows]
    simp
  obtain ⟨page, hpage, _, hplaces⟩ := name_search_finds morningStar [] [] standardAssigneeCap ⟨1, 0⟩
    hstored hasked hsorts rfl hlimit
  have halike : ReadAlike "ΦΩΣ".toList "ΦΟΡΟΣ".toList [] :=
    lowerBetween_eq_lowercase_iff.mp (by decide)
  have hplace : c.name.toList = "ΦΩΣ".toList ++ "ΦΟΡΟΣ".toList ++ [] := by
    rw [hc]
    decide
  exact ⟨c, page, hc.symm, hpage, (hplaces _ _ hplace).2.2 (.inl halike)⟩

/-- The first part of the name is not found: its sigma ends a word on its own, but not in the name. -/
theorem name_search_loses_light :
    ∃ c ∈ (World.start.after morningStar).state.tables.campaigns,
      "ΦΩΣ".toList <:+: c.name.toList ∧
      (((Shelf.stocked [] []).service standardAssigneeCap ⟨1, 0⟩).ask
        (.search (.named "ΦΩΣ") ⟨0, 10, []⟩) (World.start.after morningStar)).1 =
          .ok (.page { campaigns := [], total := 0 }) := by
  obtain ⟨c, hrows, hc⟩ := morningStar_row
  have hmissed : ¬ (SearchCriteria.named "ΦΩΣ").admits c = true := by
    rw [SearchCriteria.admits_iff, SearchCriteria.meets_named (by decide),
      ← containsIgnoringCase_iff, hc]
    decide
  have hw : ∀ c ∈ (World.start.after morningStar).state.tables.campaigns, c.Refers := fun c hc =>
    ((committed_rows_valid morningStar).campaigns c hc).refers
  have hlisting : (Shelf.stocked [] []).listing (World.start.after morningStar).state.tables
      (SearchCriteria.named "ΦΩΣ").admits [] = [] := by
    unfold Shelf.listing sortCampaigns
    rw [hrows, List.filter_cons_of_neg hmissed]
    rfl
  refine ⟨c, by rw [hrows]; exact List.mem_singleton_self c, ?_, ?_⟩
  · rw [hc]
    exact ⟨[], "ΦΟΡΟΣ".toList, by decide⟩
  · rw [asks_search (Shelf.filed_stocked [] []) _ ⟨0, 10, []⟩ _ nofun hw, hlisting]
    rfl

end Sponsorship
