import Sponsorship.Id
import Sponsorship.Json.Reader
import Sponsorship.Number.Shortest
import Sponsorship.Text.Quoted
import Sponsorship.Vocabulary

/-!
# Faults

Every way in which an operation can fail, by cause, and the message of each.

* `Violation`: a rule that a value or a request breaks.
* `Absent`: something that is not there.
* `Clash`: something that gets in the way of a write.
* `Outage`: a failure of the store or the catalog.
* `Fault`: any of them; `Fault.message` is its text.
-/

namespace Sponsorship

open Number Text

inductive Required
  | name
  | itemId
  | productFeatures
  | cautionaryPoints
  | referenceInfo
  | otherInfo
  | draftedName
  | draftedContentName
  | draftedImageUrl
  | draftedUrl
  | scheduleId
  | bloggerId
  | listedBloggerId
  | declineReason
  | entryId
  | questionTitle
  | questionnaireDescription
  deriving DecidableEq, Repr

def Required.label : Required → String
  | .name => "name"
  | .itemId => "item id"
  | .productFeatures => "product features"
  | .cautionaryPoints => "cautionary points"
  | .referenceInfo => "reference info"
  | .otherInfo => "other info"
  | .draftedName => "drafted item info name"
  | .draftedContentName => "drafted item info content name"
  | .draftedImageUrl => "drafted item info image url"
  | .draftedUrl => "drafted item info url"
  | .scheduleId => "schedule id"
  | .bloggerId => "ameba id"
  | .listedBloggerId => "assignee ameba id"
  | .declineReason => "decline reason"
  | .entryId => "entry id"
  | .questionTitle => "question title"
  | .questionnaireDescription => "questionnaire description"

/-- The message for a number that is no code. -/
def CodeSet.refusal (n : Int) : CodeSet → String
  | .stage => "stage " ++ toString n ++ " is unknown"
  | .scheduleKind => "schedule type " ++ toString n ++ " is unknown"
  | .entryKind => "entry type " ++ toString n ++ " is invalid"
  | .questionKind => "question type " ++ toString n ++ " is unknown"
  | .postTarget => "post target " ++ toString n ++ " is unknown"
  | .commissionKind => "commission type " ++ toString n ++ " is unknown"

/-- The longest reason for declining, in grapheme clusters. -/
def maxDeclineReason : Nat := 128

inductive Violation
  | required (what : Required)
  | unknownCode (set : CodeSet) (code : Int)
  | unsoundCommission (kind : CommissionKind) (rate : Single)
  | draftedMinimumUnsound
  | draftedMaximumUnsound
  | draftedRangeReversed
  | datesReversed (kind : ScheduleKind)
  | datesUnsuited (kind : ScheduleKind)
  | scheduleRepeated (kind : ScheduleKind)
  | scheduleLacking (kind : ScheduleKind)
  | scheduleCount
  | specialRateNegative
  | specialAmountNegative
  | specialDisabled
  | specialEmpty
  | specialAmbiguous
  | specialAmountForRate
  | specialRateForAmount
  | bannerWithoutCoupon
  | bannerBlank
  | wrongStage (allowed : List Stage) (actual : Stage)
  | feeNegative
  | declineReasonLong
  | optionsLacking
  | optionsRepeated
  | optionsUnwanted
  | questionsLacking
  | titleRepeated (title : String)
  | answerCount (wanted given : Nat)
  | unanswered (question : QuestionId)
  | notAnOption (question : QuestionId)
  | verdictReasonLacking
  | sortKeyBlank
  | sortKeyUnknown (key : String)
  | periodReversed
  | tooManyAssignees (cap given : Nat)
  | assigneeListedTwice (blogger : BloggerId)
  | bloggerListedTwice (blogger : BloggerId)
  | newAssigneeStage (blogger : BloggerId) (stage : Stage)
  | deletedTooLate (blogger : BloggerId) (stage : Stage)
  | formerLotteryResults
  deriving DecidableEq, Repr

inductive Absent
  | campaign (id : CampaignId)
  | assignee (id : AssigneeId)
  | participation (blogger : BloggerId) (campaign : CampaignId)
  | examination (id : ExaminationId)
  | submission (kind : EntryKind) (assignee : AssigneeId)
  | requiredSubmission (kind : EntryKind) (blogger : BloggerId) (stage : Stage)
  | schedule (id : ScheduleId)
  | question (id : QuestionId)
  | questionnaire (campaign : CampaignId)
  | item (id : ItemId)
  deriving DecidableEq, Repr

/-- Something that gets in the way of a write. -/
inductive Clash
  | campaignExists (id : CampaignId)
  | assigneeExists (blogger : BloggerId)
  | concurrentUpdate
  | duplicateKey (text : String)
  deriving DecidableEq, Repr

inductive Corruption
  | code (violation : Violation)
  | countTooSmall
  | countTooLarge
  | payload (error : ReadError)
  deriving DecidableEq, Repr

/-- A failure of the store or the catalog. -/
inductive Outage
  | refused
  | database (text : String)
  | noRow
  | corrupt (column : String) (cause : Corruption)
  /-- A column whose value is not of its type; its name is between quotes. -/
  | undecoded (column : String) (text : String)
  deriving DecidableEq, Repr

inductive Fault
  | notFound (what : Absent)
  | conflict (cause : Clash)
  | validation (rule : Violation)
  | infrastructure (cause : Outage)
  deriving DecidableEq, Repr

/-- What the dates of a schedule have to be like. -/
def ScheduleKind.dateRule : ScheduleKind → String
  | .payment => "takes an end date only"
  | .invitation | .articlePosting => "requires both start and end dates"
  | _ => "requires both dates or neither"

def Violation.message : Violation → String
  | .required what => what.label ++ " is required"
  | .unknownCode set n => set.refusal n
  | .unsoundCommission kind rate =>
    "commission " ++ shown kind ++ " with rate " ++ rate.shown ++ " is invalid"
  | .draftedMinimumUnsound => "drafted item info min commission is invalid"
  | .draftedMaximumUnsound => "drafted item info max commission is invalid"
  | .draftedRangeReversed => "drafted item info min commission must not exceed max commission"
  | .datesReversed kind => shown kind ++ " schedule end date must not precede its start date"
  | .datesUnsuited kind => shown kind ++ " schedule " ++ kind.dateRule
  | .scheduleRepeated kind => "schedule type " ++ shown kind ++ " is duplicated"
  | .scheduleLacking kind => "schedule type " ++ shown kind ++ " is required"
  | .scheduleCount =>
    "schedule count must be between " ++ toString ScheduleKind.obligatory.length ++ " and " ++
      toString (words (α := ScheduleKind)).length
  | .specialRateNegative => "special rate must not be negative"
  | .specialAmountNegative => "special amount must not be negative"
  | .specialDisabled =>
    "special rate and special amount must be zero without a special commission"
  | .specialEmpty => "special rate or special amount is required"
  | .specialAmbiguous => "special rate and special amount cannot be set at the same time"
  | .specialAmountForRate => "special amount cannot be set for a fixed rate commission"
  | .specialRateForAmount => "special rate cannot be set for a fixed amount commission"
  | .bannerWithoutCoupon => "coupon banner id requires has_coupon"
  | .bannerBlank => "coupon banner id must not be empty"
  | .wrongStage allowed actual =>
    "assignee stage must be " ++ " or ".intercalate (allowed.map shown) ++ ", got " ++ shown actual
  | .feeNegative => "writing fee must not be negative"
  | .declineReasonLong =>
    "decline reason must be at most " ++ toString maxDeclineReason ++ " characters"
  | .optionsLacking => "radio question requires at least one option"
  | .optionsRepeated => "radio question options must be unique"
  | .optionsUnwanted => "text question must not have options"
  | .questionsLacking => "questionnaire requires at least one question"
  | .titleRepeated title => "question title " ++ quoted title ++ " is duplicated"
  | .answerCount wanted given =>
    "expected " ++ toString wanted ++ " answers, got " ++ toString given
  | .unanswered question => "question " ++ question.text ++ " is not answered"
  | .notAnOption question =>
    "answer to question " ++ question.text ++ " must be one of its options"
  | .verdictReasonLacking => "reason is required when the examination is not passed"
  | .sortKeyBlank => "sort order_by must not be empty"
  | .sortKeyUnknown key => "cannot sort offer items by " ++ key
  | .periodReversed => "since must not be after until"
  | .tooManyAssignees cap given =>
    "at most " ++ toString cap ++ " assignees may be saved at once, got " ++ toString given
  | .assigneeListedTwice blogger => "assignee " ++ blogger.text ++ " is listed more than once"
  | .bloggerListedTwice blogger => "ameba id " ++ blogger.text ++ " is listed more than once"
  | .newAssigneeStage blogger stage =>
    "new assignee " ++ blogger.text ++ " must not start in " ++ shown stage
  | .deletedTooLate blogger stage =>
    "assignee " ++ blogger.text ++ " can only be deleted before invitation, stage is " ++
      shown stage
  | .formerLotteryResults => "legacy_lottery_results is no longer supported, send lottery_results"

def Absent.message : Absent → String
  | .campaign id => "offer item " ++ id.text
  | .assignee id => "assignee " ++ id.text
  | .participation blogger owner =>
    "assignee " ++ blogger.text ++ " of offer item " ++ owner.text
  | .examination id => "examination " ++ id.text
  | .submission kind author => shown kind ++ " examination of assignee " ++ author.text
  | .requiredSubmission kind blogger stage =>
    shown kind ++ " examination of assignee " ++ blogger.text ++ " required for stage " ++
      shown stage
  | .schedule id => "schedule " ++ id.text
  | .question id => "question " ++ id.text
  | .questionnaire owner => "questionnaire of offer item " ++ owner.text
  | .item id => "item " ++ id.text

def Clash.message : Clash → String
  | .campaignExists id => "offer item " ++ id.text ++ " already exists"
  | .assigneeExists blogger => "assignee " ++ blogger.text ++ " already exists"
  | .concurrentUpdate => "concurrent update, retry the request"
  | .duplicateKey text => text

/-- The text of a broken rule, with its kind of fault in front. -/
def Violation.report (rule : Violation) : String := "validation error: " ++ rule.message

def Corruption.message : Corruption → String
  | .code violation => violation.report
  | .countTooSmall => "number too small to fit in target type"
  | .countTooLarge => "number too large to fit in target type"
  | .payload error => error.message

def Outage.message : Outage → String
  | .refused => "connection refused"
  | .database text => "error returned from database: " ++ text
  | .noRow => "no rows returned by a query that expected to return at least one row"
  | .corrupt column cause => "cannot decode column " ++ column ++ ": " ++ cause.message
  | .undecoded column text =>
    "error occurred while decoding column " ++ column ++ ": " ++ text

def Fault.message : Fault → String
  | .notFound what => "not found: " ++ what.message
  | .conflict cause => "conflict: " ++ cause.message
  | .validation rule => rule.report
  | .infrastructure cause => "infrastructure error: " ++ cause.message

/-- A check that a text is not empty. -/
def requireText (what : Required) (text : String) : Except Violation Unit :=
  if text.isEmpty then .error (.required what) else .ok ()

def demand (holds : Bool) (rule : Violation) : Except Violation Unit :=
  if holds then .ok () else .error rule

def Coded.ofCode {α : Type} [Coded α] (n : Int) : Except Violation α :=
  match Coded.ofCode? n with
  | some a => .ok a
  | none => .error (.unknownCode (Coded.codeSet α) n)

end Sponsorship
