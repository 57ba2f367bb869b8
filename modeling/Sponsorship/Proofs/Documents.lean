import Sponsorship.Proofs.Ends
import Sponsorship.Proofs.Rounding
import Sponsorship.Wire.Campaign

/-!
# Documents are read back

What is written of the catalog's products and of the mails of a campaign, read by the type that
wrote it.

* `Legible`: a rate that can be read where it was written.
* `Record.toOption_reader`: reading an object comes down to reading its fields.
* `Item.toOption_reader_json`, `Variant.toOption_reader_json`: a product is read back as it was if
  its two rates are legible, and not at all if one of them is not.
* `MailToggles.reader_json`, `Reader.list_texts`: what has no numbers is always read back.
* `Reader.Gives r P`: whatever `r` reads satisfies `P`. A product that was read from any document
  has rates that are legible unless they are infinite (`Item.reader_gives`, `Variant.reader_gives`).
-/

namespace Sponsorship

open Number

/-! ## What a reader gives -/

section

variable {α β : Type} {ε ε' : Type}

theorem toOption_mapError (f : ε → ε') (x : Except ε α) : (x.mapError f).toOption = x.toOption := by
  cases x <;> rfl

theorem toOption_map (f : α → β) (x : Except ε α) : (x.map f).toOption = x.toOption.map f := by
  cases x <;> rfl

theorem Except.map_ok {x : Except ε α} {f : α → β} {b : β} :
    x.map f = .ok b ↔ ∃ a, x = .ok a ∧ f a = b := by
  cases x <;> simp [Except.map]

theorem toOption_eq_some {x : Except ε α} {a : α} : x.toOption = some a ↔ x = .ok a := by
  cases x <;> simp [Except.toOption]

/-- Two parts give a value if both do, whichever failure would show first. -/
theorem Placed.toOption_both (f : Placed (α → β)) (x : Placed α) :
    (f.both x).toOption = f.toOption.bind fun f => x.toOption.map f := by
  cases f <;> cases x <;> rfl

end

namespace Record

variable {α β : Type}

theorem ofEntries_map (f : α → β) (r : Record α) (es : Entries) :
    ((f <$> r).ofEntries es).toOption = (r.ofEntries es).toOption.map f :=
  toOption_map f _

theorem ofEntries_seq (f : Record (α → β)) (r : Record α) (es : Entries) :
    ((f <*> r).ofEntries es).toOption =
      (f.ofEntries es).toOption.bind fun f => (r.ofEntries es).toOption.map f :=
  Placed.toOption_both _ _

theorem ofEntries_required {name : String} {r : Reader α} {es : Entries} {i : Nat} {d : Document}
    (h : occurrences name es = [(i, d)]) :
    ((required name r).ofEntries es).toOption = (r d).toOption := by
  simp only [required, field, h, toOption_mapError]

/-- An object without stray entries is read as its fields are. -/
theorem toOption_reader {title : String} {r : Record α} {fields : List (String × Json)}
    (h : strayEntries r.names (Json.entries fields) = .ok ()) :
    (r.reader title (Json.object fields).document).toOption =
      (r.ofEntries (Json.entries fields)).toOption := by
  simp only [Json.document, reader, h, if_true, toOption_mapError]
  cases r.ofEntries (Json.entries fields) <;> rfl

end Record

/-! ## Values -/

namespace Reader

theorem id_json {kind : Named} (i : Id kind) : id (Json.ofId i).document = .ok i := rfl

theorem text_json (s : String) : text (Json.string s).document = .ok s := rfl

theorem bool_json (b : Bool) : bool (Json.bool b).document = .ok b := rfl

theorem documents_eq_map (vs : List Json) : Json.documents vs = vs.map Json.document := by
  induction vs with
  | nil => rfl
  | cons v rest ih => rw [Json.documents, ih, List.map_cons]

theorem list_json {α : Type} {r : Reader α} {json : α → Json}
    (h : ∀ a, r (json a).document = .ok a) (as : List α) :
    list r (Json.list json as).document = .ok as := by
  have hitems : (Json.documents (as.map json)).mapM r = .ok as := by
    rw [documents_eq_map, List.map_map]
    exact Except.mapM_map_ok fun a _ => h a
  rw [Json.list, Json.document, list, hitems]
  rfl

/-- A word has its own wire name. -/
def IsSpelt (α : Type) [Vocabulary α] : Prop :=
  ∀ a : α, (word (Json.word a).document : Except ReadError α) = .ok a

theorem commissionKind_isSpelt : IsSpelt CommissionKind := by
  intro a
  cases a <;> rfl

theorem platform_isSpelt : IsSpelt Platform := by
  intro a
  cases a <;> rfl

end Reader

/-- Read where it was written: a finite number that is none too large for a number of 64 bits. -/
def Legible (x : Single) : Prop := x.isFinite = true ∧ (x.convert .double).isFinite = true

instance (x : Single) : Decidable (Legible x) := inferInstanceAs (Decidable (_ ∧ _))

/-- An infinite rate is written as null, which is no rate. -/
theorem Reader.toOption_single (x : Single) :
    (Reader.single (Json.ofSingle x).document).toOption = if Legible x then some x else none := by
  unfold Json.ofSingle
  by_cases hx : x.isFinite = true
  · by_cases hd : (x.convert .double).isFinite = true
    · simp [hx, hd, Legible, Json.document, single, Json.Number.isOverflow, Json.Number.toDouble,
        Json.Number.toSingle, Except.toOption]
    · simp [hx, hd, Legible, Json.document, single, Json.Number.isOverflow, Json.Number.toDouble,
        Except.toOption]
  · simp [hx, Legible, Json.document, single, Except.toOption]

/-! ## Products -/

theorem Commission.toOption_reader_json (c : Commission) :
    (Commission.reader c.json.document).toOption = if Legible c.rate then some c else none := by
  rw [reader, json, Record.toOption_reader (by rfl), Record.ofEntries_seq, Record.ofEntries_map,
    Record.ofEntries_required (by rfl), Record.ofEntries_required (by rfl),
    Reader.commissionKind_isSpelt, Reader.toOption_single]
  by_cases h : Legible c.rate <;> simp [h, Except.toOption]

theorem PlatformUrl.reader_json (u : PlatformUrl) : PlatformUrl.reader u.json.document = .ok u := by
  refine toOption_eq_some.mp ?_
  rw [reader, json, Record.toOption_reader (by rfl), Record.ofEntries_seq, Record.ofEntries_map,
    Record.ofEntries_required (by rfl), Record.ofEntries_required (by rfl),
    Reader.platform_isSpelt]
  rfl

theorem Item.toOption_reader_json (i : Item) :
    (Item.reader i.json.document).toOption =
      if Legible i.minimum.rate ∧ Legible i.maximum.rate then some i else none := by
  rw [reader, json, Record.toOption_reader (by rfl)]
  simp only [Record.ofEntries_seq, Record.ofEntries_map]
  repeat rw [Record.ofEntries_required (by rfl)]
  simp only [Reader.id_json, Reader.text_json, Reader.bool_json,
    Reader.list_json PlatformUrl.reader_json, Commission.toOption_reader_json]
  by_cases hmin : Legible i.minimum.rate <;> by_cases hmax : Legible i.maximum.rate <;>
    simp [hmin, hmax, Except.toOption]

theorem Variant.toOption_reader_json (v : Variant) :
    (Variant.reader v.json.document).toOption =
      if Legible v.minimum.rate ∧ Legible v.maximum.rate then some v else none := by
  rw [reader, json, Record.toOption_reader (by rfl)]
  simp only [Record.ofEntries_seq, Record.ofEntries_map]
  repeat rw [Record.ofEntries_required (by rfl)]
  simp only [Reader.id_json, Reader.text_json, Reader.list_json PlatformUrl.reader_json,
    Commission.toOption_reader_json]
  by_cases hmin : Legible v.minimum.rate <;> by_cases hmax : Legible v.maximum.rate <;>
    simp [hmin, hmax, Except.toOption]

def Item.rates (i : Item) : List Single := [i.minimum.rate, i.maximum.rate]

def Variant.rates (v : Variant) : List Single := [v.minimum.rate, v.maximum.rate]

theorem Item.forall_rates {i : Item} {P : Single → Prop} :
    (∀ x ∈ i.rates, P x) ↔ P i.minimum.rate ∧ P i.maximum.rate := by
  simp [rates]

theorem Variant.forall_rates {v : Variant} {P : Single → Prop} :
    (∀ x ∈ v.rates, P x) ↔ P v.minimum.rate ∧ P v.maximum.rate := by
  simp [rates]

/-! ## Mails -/

theorem MailToggles.reader_json (m : MailToggles) : MailToggles.reader m.json.document = .ok m := by
  refine toOption_eq_some.mp ?_
  rw [reader, json, Record.toOption_reader (by rfl)]
  simp only [Record.ofEntries_seq, Record.ofEntries_map]
  repeat rw [Record.ofEntries_required (by rfl)]
  rfl

/-! ## What is read at all -/

section Gives

variable {α β : Type} {P : α → Prop} {Q : β → Prop}

/-- Whatever is read, from whichever document, satisfies `P`. -/
def Reader.Gives (r : Reader α) (P : α → Prop) : Prop := ∀ d a, r d = .ok a → P a

/-- Whatever is read from an object or from an array satisfies `P`. -/
structure Record.Gives (r : Record α) (P : α → Prop) : Prop where
  entries : ∀ es a, r.ofEntries es = .ok a → P a
  items : ∀ wanted items a rest, r.ofItems wanted items = .ok (a, rest) → P a

theorem Placed.both_ok {f : Placed (α → β)} {x : Placed α} {b : β} (h : f.both x = .ok b) :
    ∃ g a, f = .ok g ∧ x = .ok a ∧ g a = b := by
  cases f <;> cases x <;> cases h
  exact ⟨_, _, rfl, rfl, rfl⟩

theorem Placed.andAlso_ok {check : Placed Unit} {x : Placed α} {a : α}
    (h : check.andAlso x = .ok a) : x = .ok a := by
  obtain ⟨g, b, hg, hx, rfl⟩ := both_ok h
  cases check <;> cases hg
  exact hx

namespace Record.Gives

theorem all {r : Record α} (h : ∀ a, P a) : r.Gives P :=
  ⟨fun _ a _ => h a, fun _ _ a _ _ => h a⟩

theorem map {r : Record α} {f : α → β} (h : r.Gives fun a => Q (f a)) : (f <$> r).Gives Q where
  entries es b hb := by
    obtain ⟨a, ha, rfl⟩ := Except.map_ok.mp hb
    exact h.entries es a ha
  items wanted items b rest hb := by
    obtain ⟨⟨a, rest'⟩, ha, heq⟩ := Except.map_ok.mp hb
    cases heq
    exact h.items wanted items a _ ha

theorem seq {f : Record (α → β)} {r : Record α} (hf : f.Gives fun g => ∀ a, P a → Q (g a))
    (h : r.Gives P) : (f <*> r).Gives Q where
  entries es b hb := by
    obtain ⟨g, a, hg, ha, rfl⟩ := Placed.both_ok hb
    exact hf.entries es g hg a (h.entries es a ha)
  items wanted items b rest hb := by
    obtain ⟨⟨g, items₁⟩, hg, hb⟩ := Except.bind_ok.mp hb
    obtain ⟨⟨a, items₂⟩, ha, heq⟩ := Except.bind_ok.mp hb
    obtain rfl := congrArg Prod.fst (Except.pure_ok.mp heq)
    exact hf.items wanted items g items₁ hg a (h.items wanted items₁ a items₂ ha)

theorem required {name : String} {r : Reader α} (h : r.Gives P) :
    (Record.required name r).Gives P where
  entries es a ha := by
    simp only [Record.required, field] at ha
    split at ha
    · cases ha
    · exact h _ a (Except.mapError_ok.mp ha)
    · exact h _ a (Except.mapError_ok.mp (Placed.andAlso_ok ha))
  items wanted items a rest ha := by
    simp only [Record.required, field] at ha
    split at ha
    · obtain ⟨b, hb, heq⟩ := Except.map_ok.mp ha
      cases heq
      exact h _ a hb
    · split at ha <;> cases ha

end Record.Gives

theorem Reader.Gives.ofRecord {title : String} {r : Record α} (h : r.Gives P) :
    (r.reader title).Gives P := by
  intro d a ha
  unfold Record.reader at ha
  split at ha
  · exact h.entries _ a (Placed.andAlso_ok (Placed.andAlso_ok (Except.mapError_ok.mp ha)))
  · obtain ⟨⟨b, rest⟩, hb, ha⟩ := Except.bind_ok.mp ha
    dsimp only at ha
    split at ha
    · obtain rfl := Except.pure_ok.mp ha
      exact h.items _ _ b rest hb
    · cases ha
  · cases ha

/-- Legible unless it is infinite. -/
def IsFair (x : Single) : Prop := Legible x ↔ x.isFinite = true

theorem Commission.reader_gives : reader.Gives fun c => IsFair c.rate := by
  refine .ofRecord (.seq (.map (.all fun kind rate h => h)) (.required ?_))
  exact fun d x hx => ⟨And.left, fun hfinite => ⟨hfinite, Reader.single_isFinite hx hfinite⟩⟩

theorem Record.Gives.any (r : Record α) : r.Gives fun _ => True := .all fun _ => trivial

theorem Record.Gives.rate (name : String) :
    (Record.required name Commission.reader).Gives fun c => IsFair c.rate :=
  .required Commission.reader_gives

theorem Item.reader_gives : reader.Gives fun i => ∀ x ∈ i.rates, IsFair x := by
  refine .ofRecord (.seq (.seq (.seq (.seq (.seq (.seq (.seq (.seq (.seq (.map ?_) (.any _))
    (.any _)) (.rate _)) (.rate _)) (.any _)) (.any _)) (.any _)) (.any _)) (.any _))
  refine .all fun _ _ _ _ _ minimum hmin maximum hmax _ _ _ _ _ _ _ _ _ _ => ?_
  exact forall_rates.mpr ⟨hmin, hmax⟩

theorem Variant.reader_gives : reader.Gives fun v => ∀ x ∈ v.rates, IsFair x := by
  refine .ofRecord (.seq (.seq (.seq (.seq (.seq (.map ?_) (.any _)) (.any _)) (.rate _)) (.rate _))
    (.any _))
  refine .all fun _ _ _ _ _ minimum hmin maximum hmax _ _ => ?_
  exact forall_rates.mpr ⟨hmin, hmax⟩

end Gives

end Sponsorship
