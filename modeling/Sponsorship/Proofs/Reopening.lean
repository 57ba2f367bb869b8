import Sponsorship.Proofs.Allowed
import Sponsorship.Proofs.Decoding
import Sponsorship.Proofs.Locking

/-!
# Sponsorship.Proofs.Reopening

Whether a campaign that was saved can be read again.

* `campaignWrites ns`: the statements among the notes that write the row of a campaign. A save that
  succeeds sends exactly one (`save_writes`), for a campaign with the product that the catalog gave.
* `reopened st`: the documents that such a statement binds, read as `CampaignRow` reads their
  columns. Whoever reads a row with these documents has read them (`reopened_of_read`).
* `saved_documents_reopen`: the documents of a save are read again as they were unless a rate of the
  product is infinite. Then none of them is, and no later selection of the row gives a campaign.
* `overflow_is_unreadable`: a catalog whose rate is too large for 32 bits leads to such a row.
-/

namespace Sponsorship

open Number Time

/-- The rates of a product and of its variant. -/
def productRates (item : Item) (variant : Option Variant) : List Single :=
  item.rates ++ variant.elim [] Variant.rates

namespace Sql

/-! ## What the catalog gives -/

section Catalog

variable {σ α : Type} {l : Link σ} {s : σ}

theorem ends_any (t : Exchange σ α) (s : σ) : Ends t s (fun _ _ => True) fun _ => True := by
  unfold Ends
  split <;> trivial

theorem readable_ends {r : Except Outage α} {Q : α → σ → Prop} (h : ∀ a, r = .ok a → Q a s) :
    Ends (readable r) s Q fun _ => True := by
  cases r with
  | ok a => exact .of_ok rfl (h a rfl)
  | error e => exact .of_error rfl trivial

/-- Whatever the catalog is asked for was read from a document. -/
theorem products_ends {kind : ProductKind} {ids : List String} {r : Reader α} {P : α → Prop}
    (h : r.Gives P) :
    Ends (l.products kind ids r) s (fun as _ => ∀ a ∈ as, P a) fun _ => True := by
  refine .bind ((ends_any _ s).imp fun payloads s' _ => readable_ends fun as has a ha => ?_)
  obtain ⟨d, -, hd⟩ := Except.mapM_ok (Except.mapError_ok.mp has) a ha
  exact h d a hd

theorem isFair_placeholder (id : VariantId) : ∀ x ∈ (Variant.placeholder id).rates, IsFair x := by
  have hzero : IsFair Commission.unknown.rate := by
    unfold IsFair
    decide
  exact Variant.forall_rates.mpr ⟨hzero, hzero⟩

theorem lookUp_ends (key : ItemKey) :
    Ends (l.lookUp key) s (fun found _ => ∀ x ∈ productRates found.1 found.2, IsFair x)
      fun _ => True := by
  refine .bind ((products_ends Item.reader_gives).imp fun items s' hitems => ?_)
  cases items with
  | nil => exact .throw trivial
  | cons item rest =>
    have hitem := hitems item List.mem_cons_self
    dsimp only
    cases Id.given? key.variant with
    | none => exact .pure (by simpa [productRates] using hitem)
    | some id =>
      refine .bind ((products_ends Variant.reader_gives).imp fun variants s'' hvariants => ?_)
      cases variants with
      | nil => exact .pure (List.forall_mem_append.mpr ⟨hitem, isFair_placeholder id⟩)
      | cons variant rest =>
        exact .pure (List.forall_mem_append.mpr ⟨hitem, hvariants variant List.mem_cons_self⟩)

end Catalog

/-! ## What is written -/

/-- The statements that write a campaign's row, the latest first. -/
def campaignWrites (ns : List Note) : List Statement :=
  (ns.map Prod.fst).filter fun st => st.target? == some .campaign

/-- The statements that write the row of this campaign. -/
inductive WritesCampaign (c : Campaign) : Statement → Prop
  | new : WritesCampaign c (.insert .campaign (campaignFields c) [])
  | changed : WritesCampaign c (.update .campaign c.id.text (contents c))

/-- One more campaign was written: one with this product and the mails of the request. -/
def WroteOne (r : SaveRequest) (item : Item) (variant : Option Variant) (ns ns' : List Note) :
    Prop :=
  ∃ c st, WritesCampaign c st ∧ c.item = item ∧ c.variant = variant ∧ c.mail = r.mail ∧
    campaignWrites ns' = st :: campaignWrites ns

/-- Leaves the rows of campaigns alone. -/
abbrev Elsewhere : Fitness := fun _ st => st.target? ≠ some .campaign

/-- Anything may be sent. -/
abbrev Anything : Fitness := fun _ _ => True

section Writes

variable {ns ns' ns'' : List Note} {α β : Type}

theorem Sent.campaignWrites (h : Sent Elsewhere ns ns') :
    campaignWrites ns' = campaignWrites ns := by
  induction h with
  | nothing => rfl
  | next _ n hn ih =>
    rw [Sql.campaignWrites, List.map_cons, List.filter_cons_of_neg (by simpa using hn)]
    exact ih

/-- What is sent elsewhere, followed by what writes a campaign. -/
theorem Sends.afterElsewhere {S : Type} {view : S → List Note}
    {t : ExceptT Fault (StateM S) α} {Q : α → List Note → Prop} (h : Sends view Elsewhere t ns Q) :
    Sends view Anything t ns fun a ns' => campaignWrites ns' = campaignWrites ns ∧ Q a ns' :=
  (h.imp fun _ _ hsent hq => ⟨hsent.campaignWrites, hq⟩).mono fun _ _ _ => trivial

theorem elsewhere_call (c : Call) (h : c.writesCampaign = false) :
    Always Elsewhere (Script.link.store.call c) :=
  fun ns => (allows_call c ns).mono fun _ st hst htarget => by
    rw [hst.writes htarget] at h
    cases h

theorem elsewhere_parts (c : Campaign) (ns : List Note) :
    Sends Script.notes Elsewhere (Script.link.writeAll (partWrites c)) ns fun _ _ => True :=
  sends_writeAll fun st hst _ _ => (isElsewhere_partWrites c st hst).2

/-- The statement that writes a campaign and those that write its parts. -/
theorem writes_then_parts {c : Campaign} {st : Statement} {x : Exchange Script Unit}
    (hst : st.target? = some .campaign)
    (hx : Sends Script.notes Anything x ns fun _ ns' => ∃ reply, ns' = (st, .ok reply) :: ns) :
    Sends Script.notes Anything (x >>= fun _ => Script.link.writeAll (partWrites c)) ns
      fun _ ns' => campaignWrites ns' = st :: campaignWrites ns := by
  refine .bind (hx.imp fun _ ns₁ _ ⟨reply, h₁⟩ => ?_)
  subst h₁
  refine (elsewhere_parts c _).afterElsewhere.imp fun _ ns₂ _ ⟨h₂, _⟩ => ?_
  rw [h₂, campaignWrites, List.map_cons, List.filter_cons_of_pos (by simp [hst])]
  rfl

theorem writes_createCampaign (c : Campaign) (ns : List Note) :
    Sends transcript Anything (Script.link.store.call (.createCampaign c)) ns
      fun _ ns' =>
        campaignWrites ns' = .insert .campaign (campaignFields c) [] :: campaignWrites ns :=
  sends_call (writes_then_parts rfl
    (.bind ((sends_exchange trivial).imp fun reply _ _ h => .pure ⟨reply, h⟩)))

theorem writes_updateCampaign (c : Campaign) (ns : List Note) :
    Sends transcript Anything (Script.link.store.call (.updateCampaign c)) ns
      fun _ ns' =>
        campaignWrites ns' = .update .campaign c.id.text (contents c) :: campaignWrites ns := by
  refine sends_call (writes_then_parts rfl
    (.bind ((sends_exchange trivial).imp fun reply _ _ h => ?_)))
  split
  · exact .throw
  · exact .pure ⟨reply, h⟩

theorem WroteOne.since {r : SaveRequest} {item : Item} {variant : Option Variant}
    (h : WroteOne r item variant ns' ns'') (hns : campaignWrites ns' = campaignWrites ns) :
    WroteOne r item variant ns ns'' := by
  obtain ⟨c, st, hst, hitem, hvariant, hmail, hns'⟩ := h
  exact ⟨c, st, hst, hitem, hvariant, hmail, hns'.trans (congrArg _ hns)⟩

theorem WroteOne.later {r : SaveRequest} {item : Item} {variant : Option Variant}
    (h : WroteOne r item variant ns ns') (hs : Sent Elsewhere ns' ns'') :
    WroteOne r item variant ns ns'' := by
  obtain ⟨c, st, hst, hitem, hvariant, hmail, hns⟩ := h
  exact ⟨c, st, hst, hitem, hvariant, hmail, hs.campaignWrites.trans hns⟩

end Writes

section Saving

variable {ns : List Note} {r : SaveRequest} {item : Item} {variant : Option Variant}

/-- A campaign made of the details of a request. -/
theorem wroteOne {c : Campaign} {st : Statement} {id : CampaignId} {schedules : List Schedule}
    {now : Instant} {ns' : List Note} (hst : WritesCampaign c st)
    (hc : Campaign.create id (r.details item variant schedules) now = .ok c)
    (hns : campaignWrites ns' = st :: campaignWrites ns) : WroteOne r item variant ns ns' := by
  obtain ⟨-, -, -, -, -, -, rfl⟩ := Campaign.create_ok.mp hc
  exact ⟨_, st, hst, rfl, rfl, rfl, hns⟩

/-- After the row of the campaign nothing else writes one. -/
theorem wroteOne_then {α β : Type} {x : Task Script α} {f : α → Task Script β}
    (hx : Sends transcript Anything x ns fun _ ns' => WroteOne r item variant ns ns')
    (hf : ∀ a, Always Elsewhere (f a)) :
    Sends transcript Anything (x >>= f) ns fun _ ns' => WroteOne r item variant ns ns' := by
  refine .bind (hx.imp fun a ns₁ _ h₁ => ?_)
  exact ((hf a ns₁).imp fun _ _ hsent _ => h₁.later hsent).mono fun _ _ _ => trivial

theorem wroteOne_create (now : Instant) :
    Sends transcript Anything (Script.link.store.createCampaign now r item variant) ns
      fun _ ns' => WroteOne r item variant ns ns' := by
  refine .bind (sends_minted.imp fun c ns₁ _ ⟨h₁, ids, ids', hc⟩ => ?_)
  subst h₁
  obtain ⟨schedules, -, hcreate⟩ := SaveRequest.opening_ok hc
  have hwrite := (writes_createCampaign c ns₁).imp fun _ _ _ => wroteOne .new hcreate
  refine wroteOne_then hwrite fun _ => ?_
  exact (Always.poseQuestionnaire (fun c _ hc => elsewhere_call c hc) c.id _).bind fun _ =>
    (Always.eachOf (Always.enrol (fun c _ hc => elsewhere_call c hc) now c.id) _).bind
      fun _ => .pure

theorem wroteOne_update (now : Instant) (id : CampaignId) :
    Sends transcript Anything (Script.link.store.updateCampaign now id r item variant) ns
      fun _ ns' => WroteOne r item variant ns ns' := by
  refine .bind (sends_obey.imp fun _ ns₁ _ ⟨h₁, _⟩ => ?_)
  subst h₁
  refine .bind ((elsewhere_call (.getCampaign id true) rfl _).afterElsewhere.imp
    fun c ns₂ _ ⟨h₂, _⟩ => ?_)
  refine .bind (sends_ofExcept.imp fun c' ns₃ _ ⟨h₃, hc'⟩ => ?_)
  subst h₃
  obtain ⟨schedules, -, hcreate⟩ := SaveRequest.revision_ok hc'
  have hwrite := (writes_updateCampaign c' ns₃).imp fun _ _ _ => wroteOne .changed hcreate
  refine (wroteOne_then hwrite fun _ => ?_).imp fun _ _ _ h => h.since h₂
  exact (Always.reconcileQuestionnaire (fun c _ hc => elsewhere_call c hc) id _).bind fun _ =>
    Always.reconcileAssignees (fun c _ hc => elsewhere_call c hc) now id _

theorem wroteOne_save (now : Instant) :
    Sends transcript Anything (match r.id with
      | none => Script.link.store.createCampaign now r item variant
      | some id => do
        Script.link.store.updateCampaign now id r item variant
        return id) ns fun _ ns' => WroteOne r item variant ns ns' := by
  cases r.id with
  | none => exact wroteOne_create now
  | some id => exact wroteOne_then (wroteOne_update now id) fun _ => .pure

/-- A unit of work that succeeds is opened, does its work and is committed. -/
theorem transact_ok {α : Type} {fit : Fitness} (hb : Bracketing fit) {body : Task Script α}
    {w : World Script} {a : α} (h : (Script.link.store.transact body w).1 = .ok a) :
    ∃ unit : Script, Sent fit w.state.notes unit.notes ∧ (body ⟨w.ids, unit⟩).1 = .ok a ∧
      Sent fit (body ⟨w.ids, unit⟩).2.state.notes
        (Script.link.store.transact body w).2.state.notes := by
  obtain ⟨hopening, hunit⟩ := hb.openTransaction w.state
  unfold Store.transact at h ⊢
  have hbegin : Script.link.store.begin w.state = Script.link.openTransaction w.state := rfl
  rw [hbegin] at h ⊢
  rcases hopened : Script.link.openTransaction w.state with ⟨opened, state⟩
  rw [hopened] at h hopening hunit
  cases opened with
  | error f => cases h
  | ok unit =>
    obtain ⟨rfl, -⟩ := hunit unit rfl
    refine ⟨unit, hopening, ?_⟩
    dsimp only at h ⊢
    rcases hrun : body ⟨w.ids, unit⟩ with ⟨result, inner⟩
    rw [hrun] at h
    cases result with
    | error f => cases h
    | ok b =>
      obtain ⟨_, -, rfl⟩ := Except.map_ok.mp h
      exact ⟨rfl, hb.commit inner.state⟩

theorem bracketing_elsewhere : Bracketing Elsewhere where
  bracket _ st h := by cases st <;> cases h <;> nofun
  serializable _ := nofun

theorem elsewhere_lookUp (key : ItemKey) (ns : List Note) :
    Sends Script.notes Elsewhere (Script.link.lookUp key) ns fun _ _ => True :=
  sends_lookUp fun _ _ _ => nofun

/-- A save that succeeds wrote one campaign, with what the catalog gave. -/
theorem save_writes (cap : Nat) (now : Instant) (r : SaveRequest) {w : World Script}
    {id : CampaignId} (h : ((Script.service cap now).save r w).1 = .ok id) :
    ∃ item variant,
      (Script.link.lookUp { item := r.item, variant := Id.given? r.variant } w.state).1 =
        .ok (item, variant) ∧
      WroteOne r item variant w.state.notes
        ((Script.service cap now).save r w).2.state.notes := by
  obtain ⟨_, -, hchecked, hsave⟩ := run_bind_of_ok h
  obtain ⟨⟨item, variant⟩, hfound, hlooked, hunit⟩ := run_bind_of_ok hchecked
  obtain ⟨unit, hopening, hbody, hclosing⟩ := transact_ok bracketing_elsewhere hlooked
  refine ⟨item, variant, hfound, ?_⟩
  have hlookUp := (elsewhere_lookUp { item := r.item, variant := Id.given? r.variant }
    w.state.notes w.state rfl).1
  have hwrote := (wroteOne_save now _ rfl).2 _ hbody
  rw [Service.save, hsave, hunit]
  exact (hwrote.later hclosing).since (hlookUp.trans hopening).campaignWrites

end Saving

/-! ## What is read again -/

/-- The documents that a statement binds for a campaign, read as `CampaignRow` reads them. What it
binds for the references to the catalog is never read. -/
def reopened (st : Statement) : Except String (Item × Option Variant × MailToggles) := do
  let item ← Cell.document Item.reader (Stored.value st.fields "item")
  let variant ← Cell.optional (.document Variant.reader) (Stored.value st.fields "df_item")
  let mail ← Cell.document MailToggles.reader (Stored.value st.fields "mail")
  return (item, variant, mail)

section Reading

variable {α β : Type}

theorem Cell.toOption_document {r : Reader α} {fields : List (String × Json)} :
    (document r (.object fields)).toOption = (r (Json.object fields).document).toOption :=
  toOption_mapError _ _

theorem Cell.toOption_item (i : Item) :
    (document Item.reader i.json).toOption =
      if ∀ x ∈ i.rates, Legible x then some i else none := by
  simp only [Item.forall_rates]
  exact Cell.toOption_document.trans (Item.toOption_reader_json i)

theorem Cell.toOption_variant (v : Option Variant) :
    (optional (document Variant.reader) (Json.orNull Variant.json v)).toOption =
      if ∀ x ∈ v.elim [] Variant.rates, Legible x then some v else none := by
  cases v with
  | none => simp [Json.orNull, optional, Except.toOption]
  | some v =>
    have hv : (document Variant.reader v.json).toOption = _ :=
      Cell.toOption_document.trans (Variant.toOption_reader_json v)
    show ((document Variant.reader v.json).map some).toOption = _
    simp only [toOption_map, hv, Option.elim, Variant.forall_rates]
    split <;> rfl

theorem toOption_bind {ε : Type} (x : Except ε α) (f : α → Except ε β) :
    (x >>= f).toOption = x.toOption.bind fun a => (f a).toOption := by
  cases x <;> rfl

/-- Two values that are there under conditions are both there under both. -/
theorem bind_ite {p q : Prop} [Decidable p] [Decidable q] (a : α) (b : β) {γ : Type}
    (f : α → β → γ) :
    ((if p then some a else none).bind fun a => (if q then some b else none).bind fun b =>
      some (f a b)) = if p ∧ q then some (f a b) else none := by
  by_cases hp : p <;> by_cases hq : q <;> simp [hp, hq]

theorem reopened_of_writes {c : Campaign} {st : Statement} (h : WritesCampaign c st) :
    (reopened st).toOption =
      if ∀ x ∈ productRates c.item c.variant, Legible x then some (c.item, c.variant, c.mail)
      else none := by
  have hitem : Stored.value st.fields "item" = c.item.json := by cases h <;> rfl
  have hvariant : Stored.value st.fields "df_item" = Json.orNull Variant.json c.variant := by
    cases hv : c.variant <;> cases h <;>
      simp only [Stored.value, Statement.fields, campaignFields, contents, hv] <;> rfl
  have hmail : Cell.document MailToggles.reader (Stored.value st.fields "mail") = .ok c.mail := by
    have hshown : Stored.value st.fields "mail" = (Value.json c.mail.json).shown := by
      cases h <;> rfl
    rw [hshown]
    exact Cell.keeps_document (fun h => by cases h) (MailToggles.reader_json c.mail)
  unfold reopened
  simp only [hitem, hvariant, hmail, toOption_bind, Cell.toOption_item, Cell.toOption_variant,
    productRates, List.forall_mem_append]
  exact bind_ite _ _ fun item variant => (item, variant, c.mail)

/-- Whatever the columns read from these rows satisfies `P`, and they take no value of another. -/
def Columns.Takes (cs : Columns α) (rows : Table → Stored) (computed : String → Json)
    (P : α → Prop) : Prop :=
  ∀ rest a rest', cs.take (cs.columns.map (Column.shown rows computed) ++ rest) = .ok (a, rest') →
    P a ∧ rest' = rest

namespace Columns.Takes

variable {rows : Table → Stored} {computed : String → Json} {P : α → Prop} {Q : β → Prop}

theorem imp {cs : Columns α} {P' : α → Prop} (h : cs.Takes rows computed P)
    (hP : ∀ a, P a → P' a) : cs.Takes rows computed P' := by
  intro rest a rest' ha
  obtain ⟨hp, hrest⟩ := h rest a rest' ha
  exact ⟨hP a hp, hrest⟩

theorem map {cs : Columns α} {f : α → β} (h : cs.Takes rows computed fun a => Q (f a)) :
    (f <$> cs).Takes rows computed Q := by
  intro rest b rest' hb
  obtain ⟨⟨a, rest''⟩, ha, heq⟩ := Except.map_ok.mp hb
  cases heq
  exact h rest a rest' ha

theorem seq {cf : Columns (α → β)} {cs : Columns α}
    (hf : cf.Takes rows computed fun g => ∀ a, P a → Q (g a)) (h : cs.Takes rows computed P) :
    (cf <*> cs).Takes rows computed Q := by
  intro rest b rest' hb
  have hcolumns : (cf <*> cs).columns = cf.columns ++ cs.columns := rfl
  rw [hcolumns, List.map_append, List.append_assoc] at hb
  obtain ⟨⟨g, rest₁⟩, hg, hb⟩ := Except.bind_ok.mp hb
  obtain ⟨⟨a, rest₂⟩, ha, heq⟩ := Except.bind_ok.mp hb
  obtain ⟨hq, rfl⟩ := hf _ g rest₁ hg
  obtain ⟨hp, rfl⟩ := h _ a rest₂ ha
  cases Except.pure_ok.mp heq
  exact ⟨hq a hp, rfl⟩

/-- A column gives what its cell reads. -/
theorem one {column : Column} {cell : Cell α} :
    (Columns.one column cell).Takes rows computed fun a =>
      cell (column.shown rows computed) = .ok a := by
  intro rest a rest' ha
  simp only [Columns.one, List.map_cons, List.map_nil, List.cons_append, List.nil_append] at ha
  cases hcell : cell (column.shown rows computed) with
  | ok b =>
    rw [hcell] at ha
    cases ha
    exact ⟨rfl, rfl⟩
  | error text =>
    rw [hcell] at ha
    cases ha

theorem any {column : Column} {cell : Cell α} :
    (Columns.one column cell).Takes rows computed fun _ => True :=
  one.imp fun _ _ => trivial

theorem both {cf : Columns (α → β)} {cs : Columns α}
    (hf : cf.Takes rows computed fun _ => True) (h : cs.Takes rows computed fun _ => True) :
    (cf <*> cs).Takes rows computed fun _ => True :=
  seq (hf.imp fun _ _ _ _ => trivial) h

theorem read {cs : Columns α} (h : cs.Takes rows computed P) {a : α}
    (ha : cs.read (cs.columns.map (Column.shown rows computed)) = .ok a) : P a := by
  obtain ⟨⟨a', rest⟩, ha, rfl⟩ := Except.map_ok.mp ha
  refine (h [] a' rest ?_).1
  rwa [List.append_nil]

end Columns.Takes

/-- Whoever reads the row of a campaign has read its documents. -/
theorem takes_documents {rows : Table → Stored} {computed : String → Json} :
    CampaignRow.columns.Takes rows computed fun row =>
      Cell.document Item.reader ((rows .campaign).value "item") = .ok row.item ∧
      Cell.optional (.document Variant.reader) ((rows .campaign).value "df_item") =
        .ok row.variant ∧
      Cell.document MailToggles.reader ((rows .campaign).value "mail") = .ok row.mail := by
  have hspecial : CampaignRow.specialColumns.Takes rows computed fun _ => True :=
    .both (.both (.map .any) .any) .any
  have hflags : CampaignRow.flagColumns.Takes rows computed fun _ => True :=
    .both (.both (.both (.both (.both (.map .any) .any) .any) .any) .any) .any
  have htexts : CampaignRow.textColumns.Takes rows computed fun _ => True :=
    .both (.both (.both (.map .any) .any) .any) .any
  have hcommission {first second : Column} : (CommissionRow.mk <$> Columns.one first .integer <*>
      Columns.one second .single).Takes rows computed fun _ => True := .both (.map .any) .any
  unfold CampaignRow.columns
  repeat' first
    | exact hspecial
    | exact hflags
    | exact htexts
    | exact hcommission
    | exact .one
    | apply Columns.Takes.seq
    | apply Columns.Takes.map
  -- what is left is the first column, with all that the others read after it
  refine .imp .any fun _ _ _ _ item hitem variant hvariant _ _ _ _ _ _ _ _ _ _ _ _ mail hmail => ?_
  intros
  exact ⟨hitem, hvariant, hmail⟩

theorem reopened_of_read {rows : Table → Stored} {computed : String → Json} {row : CampaignRow}
    {c : Campaign} {st : Statement} (hst : WritesCampaign c st)
    (hfields : (rows .campaign).Holds st.fields)
    (h : CampaignRow.columns.read (CampaignRow.columns.columns.map (Column.shown rows computed)) =
      .ok row) : reopened st = .ok (row.item, row.variant, row.mail) := by
  obtain ⟨hitem, hvariant, hmail⟩ := takes_documents.read h
  have hcolumns : ["item", "df_item", "mail"] ⊆ st.fields.map Field.column := by
    cases hst <;> simp [Statement.fields, campaignFields, contents]
  rw [hfields.value_eq (hcolumns (by decide))] at hitem hvariant hmail
  rw [reopened, hitem, hvariant, hmail]
  rfl

end Reading

/-- After a save that succeeds, one statement wrote a campaign. The documents it binds are read
again as they were exactly if the catalog gave no infinite rate; and whoever reads a row that has
what the statement binds, has read them. -/
theorem saved_documents_reopen (cap : Nat) (now : Instant) (r : SaveRequest) (w : World Script)
    (id : CampaignId) (h : ((Script.service cap now).save r w).1 = .ok id) :
    ∃ item variant st,
      (Script.link.lookUp { item := r.item, variant := Id.given? r.variant } w.state).1 =
        .ok (item, variant) ∧
      campaignWrites ((Script.service cap now).save r w).2.state.notes =
        st :: campaignWrites w.state.notes ∧
      (reopened st).toOption =
        (if ∀ x ∈ productRates item variant, x.isFinite = true then some (item, variant, r.mail)
          else none) ∧
      ∀ (rows : Table → Stored) (computed : String → Json) (row : CampaignRow),
        (rows .campaign).Holds st.fields →
        CampaignRow.columns.read (CampaignRow.columns.columns.map (Column.shown rows computed)) =
          .ok row →
        reopened st = .ok (row.item, row.variant, row.mail) := by
  obtain ⟨item, variant, hfound, c, st, hst, rfl, rfl, hmail, hwrites⟩ := save_writes cap now r h
  refine ⟨c.item, c.variant, st, hfound, hwrites, ?_, fun rows computed row => reopened_of_read hst⟩
  have hfair : ∀ x ∈ productRates c.item c.variant, IsFair x :=
    (lookUp_ends { item := r.item, variant := Id.given? r.variant }).ok (Prod.ext hfound rfl)
  have hiff : (∀ x ∈ productRates c.item c.variant, Legible x) ↔
      ∀ x ∈ productRates c.item c.variant, x.isFinite = true :=
    forall₂_congr hfair
  rw [reopened_of_writes hst, hmail]
  simp only [hiff]

section Rates

/-- A campaign that reviews nothing, with no assignees. -/
def plainRequest : SaveRequest :=
  { id := none, name := "name", item := ⟨"item"⟩, variant := none, hasCoupon := false,
    banner := none, special := {}, flags := {}, target := .undefined,
    texts := { productFeatures := "features", cautionaryPoints := "points",
               referenceInfo := "reference", otherInfo := "other" },
    mail := {}, isClosed := false,
    schedules := [⟨none, .invitation, some ⟨0, 0⟩, some ⟨1, 0⟩⟩,
      ⟨none, .articlePosting, some ⟨0, 0⟩, some ⟨1, 0⟩⟩, ⟨none, .payment, none, some ⟨1, 0⟩⟩],
    assignees := [], questionnaire := none,
    drafted := { name := "name", contentName := "content", imageUrl := "image", url := "url",
                 minimum := .unknown, maximum := .unknown } }

/-- The document of a product, as the catalog keeps it. -/
def catalogDocument (rate : Json.Number) : Json :=
  let commission : Json :=
    .object [("commission_type", .string "fixed_rate"), ("calculated_rate", .number rate)]
  .object [("id", .string "item"), ("image_url", .string "image"), ("name", .string "name"),
    ("min_commission", commission), ("max_commission", commission), ("urls", .array []),
    ("has_tieup", .bool false), ("content_name", .string "content"),
    ("enabled_self_back", .bool false), ("is_df", .bool false)]

/-- The product of such a document. -/
def catalogItem (rate : Json.Number) : Item :=
  { Item.placeholder ⟨"item"⟩ with
    imageUrl := "image", name := "name", contentName := "content",
    minimum := ⟨.fixedRate, rate.toSingle⟩, maximum := ⟨.fixedRate, rate.toSingle⟩ }

/-- The world of a save that is given this document. -/
def catalogWorld (rate : Json.Number) : World Script :=
  ⟨.counting, { replies := [{ rows := some [[catalogDocument rate]] }] }⟩

def saveRun (rate : Json.Number) : Except Fault CampaignId × World Script :=
  (Script.service standardAssigneeCap ⟨0, 0⟩).save plainRequest (catalogWorld rate)

/-- A usual rate. -/
def usualRate : Json.Number := .decimal false 85 (-1)

/-- A rate that fits 64 bits but not 32. -/
def overflowRate : Json.Number := .decimal false 1 39

/-- A usual rate is read again. -/
theorem saved_documents_reopen_usual :
    (saveRun usualRate).1.isOk = true ∧
    ∃ st, campaignWrites (saveRun usualRate).2.state.notes = [st] ∧
      reopened st = .ok (catalogItem usualRate, none, {}) := by
  have haccepted : (saveRun usualRate).1.isOk = true := by decide +kernel
  unfold saveRun at haccepted ⊢
  obtain ⟨id, hid⟩ := Except.ok_of_isOk haccepted
  obtain ⟨item, variant, st, hfound, hwrites, hreopened, -⟩ := saved_documents_reopen
    standardAssigneeCap ⟨0, 0⟩ plainRequest (catalogWorld usualRate) id hid
  have hcatalog : (Script.link.lookUp { item := ⟨"item"⟩, variant := none }
      (catalogWorld usualRate).state).1 = .ok (catalogItem usualRate, none) := rfl
  cases hcatalog.symm.trans hfound
  rw [if_pos (by decide)] at hreopened
  exact ⟨haccepted, st, hwrites, toOption_eq_some.mp hreopened⟩

/-- A rate that is too large for 32 bits is taken for infinite, passes all checks and is written as
null, and nobody reads the campaign again. -/
theorem overflow_is_unreadable :
    (saveRun overflowRate).1.isOk = true ∧
    ∃ st, campaignWrites (saveRun overflowRate).2.state.notes = [st] ∧
      (reopened st).toOption = none ∧
      ∀ (rows : Table → Stored) (computed : String → Json) (row : CampaignRow),
        (rows .campaign).Holds st.fields →
        CampaignRow.columns.read (CampaignRow.columns.columns.map (Column.shown rows computed)) ≠
          .ok row := by
  have haccepted : (saveRun overflowRate).1.isOk = true := by decide +kernel
  unfold saveRun at haccepted ⊢
  obtain ⟨id, hid⟩ := Except.ok_of_isOk haccepted
  obtain ⟨item, variant, hfound, c, st, hst, rfl, rfl, -, hwrites⟩ := save_writes _ _ _ hid
  have hnone : (reopened st).toOption = none := by
    have hcatalog : (Script.link.lookUp { item := ⟨"item"⟩, variant := none }
        (catalogWorld overflowRate).state).1 = .ok (catalogItem overflowRate, none) := rfl
    obtain ⟨hitem, hvariant⟩ := Prod.mk.inj (Except.ok.inj (hcatalog.symm.trans hfound))
    rw [reopened_of_writes hst, if_neg]
    rw [← hitem, ← hvariant]
    decide
  refine ⟨haccepted, st, hwrites, hnone, fun rows computed row hfields hread => ?_⟩
  rw [reopened_of_read hst hfields hread] at hnone
  cases hnone

end Rates

end Sql

end Sponsorship
