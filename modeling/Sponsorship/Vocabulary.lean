/-!
# Vocabulary

The closed sets of words that campaigns are described with. A word has a wire name, a name shown
in messages and, where it is stored as a number, a code.

* `Stage`, `ScheduleKind`, `EntryKind`, `QuestionKind`, `PostTarget`, `CommissionKind`, `Platform`.
* `Vocabulary`: all words of a set and their names.
* `Coded`: the codes of a set.
-/

namespace Sponsorship

inductive Stage
  | beforeInvitation
  | invitation
  | lottery
  | lotteryLost
  | shipment
  | draftSubmission
  | preExamination
  | preReexamination
  | articlePosting
  | examination
  | reexamination
  | paying
  | paymentCompleted
  | done
  deriving DecidableEq, Repr

inductive ScheduleKind
  | invitation
  | lottery
  | shipment
  | draftSubmission
  | preExamination
  | articlePosting
  | examination
  | payment
  deriving DecidableEq, Repr

inductive EntryKind
  | draft
  | entry
  deriving DecidableEq, Repr

inductive QuestionKind
  | radio
  | text
  deriving DecidableEq, Repr

inductive PostTarget
  | undefined
  | ameba
  | x
  | instagram
  deriving DecidableEq, Repr

inductive CommissionKind
  | unknown
  | fixedRate
  | fixedAmount
  | multiFixedAmounts
  deriving DecidableEq, Repr

inductive Platform
  | all
  | android
  | ios
  deriving DecidableEq, Repr

/-- A closed set of words: each word once, with its wire name and the name shown in messages. -/
class Vocabulary (α : Type) where
  words : List α
  wire : α → String
  shown : α → String

/-- The sets of words that are stored as numbers. -/
inductive CodeSet
  | stage
  | scheduleKind
  | entryKind
  | questionKind
  | postTarget
  | commissionKind
  deriving DecidableEq, Repr

/-- A set whose words are stored as numbers. -/
class Coded (α : Type) extends Vocabulary α where
  codeSet : CodeSet
  code : α → Int

export Vocabulary (words wire shown)
export Coded (code)

instance : Coded Stage where
  codeSet := .stage
  words := [.beforeInvitation, .invitation, .lottery, .lotteryLost, .shipment, .draftSubmission,
    .preExamination, .preReexamination, .articlePosting, .examination, .reexamination, .paying,
    .paymentCompleted, .done]
  wire
    | .beforeInvitation => "before_invitation"
    | .invitation => "invitation"
    | .lottery => "lottery"
    | .lotteryLost => "lottery_lost"
    | .shipment => "shipment"
    | .draftSubmission => "draft_submission"
    | .preExamination => "pre_examination"
    | .preReexamination => "pre_reexamination"
    | .articlePosting => "article_posting"
    | .examination => "examination"
    | .reexamination => "reexamination"
    | .paying => "paying"
    | .paymentCompleted => "payment_completed"
    | .done => "done"
  shown
    | .beforeInvitation => "BeforeInvitation"
    | .invitation => "Invitation"
    | .lottery => "Lottery"
    | .lotteryLost => "LotteryLost"
    | .shipment => "Shipment"
    | .draftSubmission => "DraftSubmission"
    | .preExamination => "PreExamination"
    | .preReexamination => "PreReexamination"
    | .articlePosting => "ArticlePosting"
    | .examination => "Examination"
    | .reexamination => "Reexamination"
    | .paying => "Paying"
    | .paymentCompleted => "PaymentCompleted"
    | .done => "Done"
  code
    | .beforeInvitation => 1
    | .invitation => 2
    | .lottery => 3
    | .lotteryLost => 4
    | .shipment => 5
    | .draftSubmission => 6
    | .preExamination => 7
    | .preReexamination => 8
    | .articlePosting => 9
    | .examination => 10
    | .reexamination => 11
    | .paying => 12
    | .paymentCompleted => 13
    | .done => 14

instance : Coded ScheduleKind where
  codeSet := .scheduleKind
  words := [.invitation, .lottery, .shipment, .draftSubmission, .preExamination, .articlePosting,
    .examination, .payment]
  wire
    | .invitation => "invitation"
    | .lottery => "lottery"
    | .shipment => "shipment"
    | .draftSubmission => "draft_submission"
    | .preExamination => "pre_examination"
    | .articlePosting => "article_posting"
    | .examination => "examination"
    | .payment => "payment"
  shown
    | .invitation => "Invitation"
    | .lottery => "Lottery"
    | .shipment => "Shipment"
    | .draftSubmission => "DraftSubmission"
    | .preExamination => "PreExamination"
    | .articlePosting => "ArticlePosting"
    | .examination => "Examination"
    | .payment => "Payment"
  code
    | .invitation => 1
    | .lottery => 2
    | .shipment => 3
    | .draftSubmission => 4
    | .preExamination => 5
    | .articlePosting => 6
    | .examination => 7
    | .payment => 8

instance : Coded EntryKind where
  codeSet := .entryKind
  words := [.draft, .entry]
  wire
    | .draft => "draft"
    | .entry => "entry"
  shown
    | .draft => "Draft"
    | .entry => "Entry"
  code
    | .draft => 1
    | .entry => 2

instance : Coded QuestionKind where
  codeSet := .questionKind
  words := [.radio, .text]
  wire
    | .radio => "radio"
    | .text => "text"
  shown
    | .radio => "Radio"
    | .text => "Text"
  code
    | .radio => 1
    | .text => 2

instance : Coded PostTarget where
  codeSet := .postTarget
  words := [.undefined, .ameba, .x, .instagram]
  wire
    | .undefined => "undefined"
    | .ameba => "ameba"
    | .x => "x"
    | .instagram => "instagram"
  shown
    | .undefined => "Undefined"
    | .ameba => "Ameba"
    | .x => "X"
    | .instagram => "Instagram"
  code
    | .undefined => 0
    | .ameba => 1
    | .x => 2
    | .instagram => 3

instance : Coded CommissionKind where
  codeSet := .commissionKind
  words := [.unknown, .fixedRate, .fixedAmount, .multiFixedAmounts]
  wire
    | .unknown => "unknown"
    | .fixedRate => "fixed_rate"
    | .fixedAmount => "fixed_amount"
    | .multiFixedAmounts => "multi_fixed_amounts"
  shown
    | .unknown => "Unknown"
    | .fixedRate => "FixedRate"
    | .fixedAmount => "FixedAmount"
    | .multiFixedAmounts => "MultiFixedAmounts"
  code
    | .unknown => 0
    | .fixedRate => 1
    | .fixedAmount => 2
    | .multiFixedAmounts => 3

instance : Vocabulary Platform where
  words := [.all, .android, .ios]
  wire
    | .all => "all"
    | .android => "android"
    | .ios => "ios"
  shown
    | .all => "All"
    | .android => "Android"
    | .ios => "Ios"

namespace Vocabulary

/-- The words of a set with their wire names. -/
def named (α : Type) [Vocabulary α] : List (String × α) := (words (α := α)).map fun w => (wire w, w)

def ofWire? {α : Type} [Vocabulary α] (name : String) : Option α :=
  (words (α := α)).find? fun w => wire w == name

end Vocabulary

def Coded.ofCode? {α : Type} [Coded α] (n : Int) : Option α :=
  (words (α := α)).find? fun w => code w == n

namespace ScheduleKind

/-- The kinds that no campaign goes without. -/
def obligatory : List ScheduleKind := [.invitation, .articlePosting, .payment]

end ScheduleKind

end Sponsorship
