import Sponsorship.Campaign
import Sponsorship.Wire.Item

/-!
# Wire forms of campaigns

A campaign is read as it was written; the references to the catalog are written but not read, since
they follow from the rest.
-/

namespace Sponsorship

namespace WorkflowFlags

def reader : Reader WorkflowFlags := Record.reader "WorkflowFlags" <|
  WorkflowFlags.mk <$> .required "has_sample" .bool <*> .required "needs_preliminary_review" .bool
    <*> .required "needs_after_review" .bool <*> .required "needs_pr_mark" .bool
    <*> .required "post_required" .bool <*> .required "has_lottery" .bool

def json (f : WorkflowFlags) : Json :=
  .object [("has_sample", .bool f.hasSample),
    ("needs_preliminary_review", .bool f.needsPreliminaryReview),
    ("needs_after_review", .bool f.needsAfterReview), ("needs_pr_mark", .bool f.needsPrMark),
    ("post_required", .bool f.postRequired), ("has_lottery", .bool f.hasLottery)]

end WorkflowFlags

namespace MailToggles

def reader : Reader MailToggles := Record.reader "MailToggles" <|
  MailToggles.mk <$> .required "invitation" .bool <*> .required "offer_detail" .bool
    <*> .required "passed_preliminary_review" .bool <*> .required "failed_preliminary_review" .bool
    <*> .required "article_post" .bool <*> .required "passed_after_review" .bool
    <*> .required "failed_after_review" .bool

def json (m : MailToggles) : Json :=
  .object [("invitation", .bool m.invitation), ("offer_detail", .bool m.offerDetail),
    ("passed_preliminary_review", .bool m.passedPreliminaryReview),
    ("failed_preliminary_review", .bool m.failedPreliminaryReview),
    ("article_post", .bool m.articlePost), ("passed_after_review", .bool m.passedAfterReview),
    ("failed_after_review", .bool m.failedAfterReview)]

end MailToggles

namespace OfferTexts

def reader : Reader OfferTexts := Record.reader "OfferTexts" <|
  OfferTexts.mk <$> .required "product_features" .text <*> .required "cautionary_points" .text
    <*> .required "reference_info" .text <*> .required "other_info" .text

def json (t : OfferTexts) : Json :=
  .object [("product_features", .string t.productFeatures),
    ("cautionary_points", .string t.cautionaryPoints),
    ("reference_info", .string t.referenceInfo), ("other_info", .string t.otherInfo)]

end OfferTexts

namespace SpecialCommission

def reader : Reader SpecialCommission := Record.reader "SpecialCommission" <|
  SpecialCommission.mk <$> .required "enabled" .bool <*> .required "rate" .double
    <*> .required "amount" .int64

def json (s : SpecialCommission) : Json :=
  .object [("enabled", .bool s.enabled), ("rate", .ofDouble s.rate), ("amount", .int s.amount)]

end SpecialCommission

namespace Schedule

def reader : Reader Schedule := Record.reader "Schedule" <|
  Schedule.mk <$> .required "id" .id <*> .required "schedule_type" .word
    <*> .optional "start_date" .instant <*> .optional "end_date" .instant

def json (s : Schedule) : Json :=
  .object [("id", .ofId s.id), ("schedule_type", .word s.kind),
    ("start_date", .orNull .instant s.opens), ("end_date", .orNull .instant s.closes)]

end Schedule

namespace Campaign

/-- A campaign as it was written, whether it keeps the rules or not. -/
def reader : Reader Campaign := Record.reader "OfferItem" <|
  build <$> .required "id" .id <*> .required "created_at" .instant <*> .required "name" .text
    <*> .required "item" Item.reader <*> .optional "df_item" Variant.reader
    <*> .defaulting "has_coupon" .bool false <*> .optional "coupon_banner_id" .id
    <*> .defaulting "special_commission" SpecialCommission.reader {}
    <*> .defaulting "flags" WorkflowFlags.reader {} <*> .defaulting "post_target" .word .undefined
    <*> .required "texts" OfferTexts.reader <*> .defaulting "mail" MailToggles.reader {}
    <*> .defaulting "is_closed" .bool false <*> .required "schedules" (.list Schedule.reader)
    <*> .required "drafted_item_info" DraftedInfo.reader
where
  build (id : CampaignId) (createdAt : Time.Instant) (name : String) (item : Item)
      (variant : Option Variant) (hasCoupon : Bool) (banner : Option BannerId)
      (special : SpecialCommission) (flags : WorkflowFlags) (target : PostTarget)
      (texts : OfferTexts) (mail : MailToggles) (isClosed : Bool) (schedules : List Schedule)
      (drafted : DraftedInfo) : Campaign :=
    restore id { name := name, item, variant, hasCoupon, banner, special, flags, target, texts,
                 mail, isClosed, schedules, drafted } createdAt

def json (c : Campaign) : Json :=
  .object [("id", .ofId c.id), ("name", .string c.name), ("item", c.item.json),
    ("df_item", .orNull Variant.json c.variant), ("has_coupon", .bool c.hasCoupon),
    ("coupon_banner_id", .orNull .ofId c.banner), ("special_commission", c.special.json),
    ("flags", c.flags.json), ("post_target", .word c.target), ("texts", c.texts.json),
    ("mail", c.mail.json), ("is_closed", .bool c.isClosed), ("created_at", .instant c.createdAt),
    ("schedules", .list Schedule.json c.schedules), ("drafted_item_info", c.drafted.json),
    ("pick_info", c.pickInfo.json)]

end Campaign

end Sponsorship
