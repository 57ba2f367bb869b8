import Sponsorship.Wire.Participation

/-!
# Wire forms of requests
-/

namespace Sponsorship

def ScheduleInput.reader : Reader ScheduleInput := Record.reader "ScheduleInput" <|
  ScheduleInput.mk <$> .optional "id" .id <*> .required "schedule_type" .word
    <*> .optional "start_date" .instant <*> .optional "end_date" .instant

def AssigneeInput.reader : Reader AssigneeInput := Record.reader "AssigneeInput" <|
  AssigneeInput.mk <$> .required "ameba_id" .id <*> .required "stage" .word
    <*> .defaulting "writing_fee" .int64 0 <*> .defaulting "is_deleted" .bool false

def QuestionnaireInput.reader : Reader QuestionnaireInput := Record.reader "QuestionnaireInput" <|
  QuestionnaireInput.mk <$> .required "description" .text
    <*> .required "questions" (.list QuestionInput.reader)

def SaveRequest.reader : Reader SaveRequest := Record.reader "SaveOfferItemRequest" <|
  SaveRequest.mk <$> .optional "offer_item_id" .id <*> .required "name" .text
    <*> .required "item_id" .id <*> .optional "df_item_id" .id
    <*> .defaulting "has_coupon" .bool false <*> .optional "coupon_banner_id" .id
    <*> .defaulting "special_commission" SpecialCommission.reader {}
    <*> .defaulting "flags" WorkflowFlags.reader {} <*> .defaulting "post_target" .word .undefined
    <*> .required "texts" OfferTexts.reader <*> .defaulting "mail" MailToggles.reader {}
    <*> .defaulting "is_closed" .bool false <*> .required "schedules" (.list ScheduleInput.reader)
    <*> .defaulting "assignees" (.list AssigneeInput.reader) []
    <*> .optional "questionnaire" QuestionnaireInput.reader
    <*> .required "drafted_item_info" DraftedInfo.reader

def SortKey.reader : Reader SortKey := Record.reader "Sort" <|
  SortKey.mk <$> .required "order_by" .text <*> .required "desc" .bool

def SortKey.json (k : SortKey) : Json :=
  .object [("order_by", .string k.name), ("desc", .bool k.descending)]

def ListCondition.json (c : ListCondition) : Json :=
  .object [("offset", .nat c.offset), ("limit", .nat c.limit), ("sorts", .list SortKey.json c.sorts)]

end Sponsorship
