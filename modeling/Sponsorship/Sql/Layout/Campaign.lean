import Sponsorship.Sql.Column
import Sponsorship.Wire.Campaign

/-!
# Layout of campaigns

The fields that a campaign and its schedules are written to, and the columns they are read from.

* `campaignFields`, `contents`: a new campaign, and what can change of it.
* `draftedFields`, `scheduleFields`: what has tables of its own.
* `CampaignRow`, `ScheduleRow`: rows whose codes are not decoded yet.
-/

namespace Sponsorship.Sql

open Number Time

/-- The fields of a campaign that can change. -/
def contents (c : Campaign) : List Field :=
  [⟨"name", .text c.name⟩, ⟨"item_id", .id c.item.id⟩,
    ⟨"df_item_id", .orNull (fun v : Variant => .id v.id) c.variant⟩,
    ⟨"item", .json c.item.json⟩,
    ⟨"df_item", .orNull (fun v : Variant => .json v.json) c.variant⟩,
    ⟨"has_coupon", .bool c.hasCoupon⟩, ⟨"coupon_banner_id", .orNull .id c.banner⟩,
    ⟨"has_special_commission", .bool c.special.enabled⟩, ⟨"special_rate", .double c.special.rate⟩,
    ⟨"special_amount", .integer c.special.amount⟩, ⟨"has_sample", .bool c.flags.hasSample⟩,
    ⟨"needs_preliminary_review", .bool c.flags.needsPreliminaryReview⟩,
    ⟨"needs_after_review", .bool c.flags.needsAfterReview⟩,
    ⟨"needs_pr_mark", .bool c.flags.needsPrMark⟩, ⟨"post_required", .bool c.flags.postRequired⟩,
    ⟨"has_lottery", .bool c.flags.hasLottery⟩, ⟨"post_target", .word c.target⟩,
    ⟨"product_features", .text c.texts.productFeatures⟩,
    ⟨"cautionary_points", .text c.texts.cautionaryPoints⟩,
    ⟨"reference_info", .text c.texts.referenceInfo⟩, ⟨"other_info", .text c.texts.otherInfo⟩,
    ⟨"mail", .json c.mail.json⟩, ⟨"pick_info", .json c.pickInfo.json⟩,
    ⟨"is_closed", .bool c.isClosed⟩]

def campaignFields (c : Campaign) : List Field :=
  ⟨"id", .id c.id⟩ :: contents c ++ [⟨"created_at", .instant c.createdAt⟩]

def draftedFields (id : CampaignId) (d : DraftedInfo) : List Field :=
  [⟨"offer_item_id", .id id⟩, ⟨"name", .text d.name⟩, ⟨"content_name", .text d.contentName⟩,
    ⟨"image_url", .text d.imageUrl⟩, ⟨"url", .text d.url⟩,
    ⟨"min_commission_type", .word d.minimum.kind⟩, ⟨"min_commission_rate", .single d.minimum.rate⟩,
    ⟨"max_commission_type", .word d.maximum.kind⟩, ⟨"max_commission_rate", .single d.maximum.rate⟩]

def scheduleFields (id : CampaignId) (s : Schedule) : List Field :=
  [⟨"id", .id s.id⟩, ⟨"offer_item_id", .id id⟩, ⟨"schedule_type", .word s.kind⟩,
    ⟨"start_date", .orNull .instant s.opens⟩, ⟨"end_date", .orNull .instant s.closes⟩]

/-- A commission with its kind as a code. -/
structure CommissionRow where
  kind : Int
  rate : Single

def CommissionRow.commission (r : CommissionRow) (column : String) : Except Outage Commission := do
  return { kind := ← decoded column r.kind, rate := r.rate }

/-- A campaign as it is stored, with the product it was saved with. -/
structure CampaignRow where
  id : CampaignId
  name : String
  item : Item
  variant : Option Variant
  hasCoupon : Bool
  banner : Option BannerId
  special : SpecialCommission
  flags : WorkflowFlags
  target : Int
  texts : OfferTexts
  mail : MailToggles
  isClosed : Bool
  createdAt : Instant
  draftedName : String
  draftedContentName : String
  draftedImageUrl : String
  draftedUrl : String
  minimum : CommissionRow
  maximum : CommissionRow

namespace CampaignRow

def specialColumns : Columns SpecialCommission :=
  SpecialCommission.mk <$> .of .campaign "has_special_commission" .bool
    <*> .of .campaign "special_rate" .double <*> .of .campaign "special_amount" .integer

def flagColumns : Columns WorkflowFlags :=
  WorkflowFlags.mk <$> .of .campaign "has_sample" .bool
    <*> .of .campaign "needs_preliminary_review" .bool
    <*> .of .campaign "needs_after_review" .bool <*> .of .campaign "needs_pr_mark" .bool
    <*> .of .campaign "post_required" .bool <*> .of .campaign "has_lottery" .bool

def textColumns : Columns OfferTexts :=
  OfferTexts.mk <$> .of .campaign "product_features" .text
    <*> .of .campaign "cautionary_points" .text <*> .of .campaign "reference_info" .text
    <*> .of .campaign "other_info" .text

def columns : Columns CampaignRow :=
  CampaignRow.mk <$> .of .campaign "id" .id <*> .of .campaign "name" .text
    <*> .of .campaign "item" (.document Item.reader)
    <*> .of .campaign "df_item" (.optional (.document Variant.reader))
    <*> .of .campaign "has_coupon" .bool <*> .of .campaign "coupon_banner_id" (.optional .id)
    <*> specialColumns <*> flagColumns <*> .of .campaign "post_target" .integer <*> textColumns
    <*> .of .campaign "mail" (.document MailToggles.reader) <*> .of .campaign "is_closed" .bool
    <*> .of .campaign "created_at" .instant <*> .named .drafted "name" "drafted_name" .text
    <*> .named .drafted "content_name" "drafted_content_name" .text
    <*> .named .drafted "image_url" "drafted_image_url" .text
    <*> .named .drafted "url" "drafted_url" .text
    <*> (CommissionRow.mk <$> .of .drafted "min_commission_type" .integer
      <*> .of .drafted "min_commission_rate" .single)
    <*> (CommissionRow.mk <$> .of .drafted "max_commission_type" .integer
      <*> .of .drafted "max_commission_rate" .single)

/-- The campaign of a row, with its schedules. -/
def campaign (r : CampaignRow) (schedules : List Schedule) : Except Outage Campaign := do
  let target ← decoded "offer_item.post_target" r.target
  let minimum ← r.minimum.commission "drafted_item_info.min_commission_type"
  let maximum ← r.maximum.commission "drafted_item_info.max_commission_type"
  let details : CampaignDetails :=
    { name := r.name, item := r.item, variant := r.variant, hasCoupon := r.hasCoupon,
      banner := r.banner, special := r.special, flags := r.flags, target, texts := r.texts,
      mail := r.mail, isClosed := r.isClosed, schedules,
      drafted := { name := r.draftedName, contentName := r.draftedContentName,
                   imageUrl := r.draftedImageUrl, url := r.draftedUrl, minimum, maximum } }
  return .restore r.id details r.createdAt

end CampaignRow

structure ScheduleRow where
  id : ScheduleId
  campaign : CampaignId
  kind : Int
  opens : Option Instant
  closes : Option Instant

namespace ScheduleRow

def columns : Columns ScheduleRow :=
  ScheduleRow.mk <$> .of .schedule "id" .id <*> .of .schedule "offer_item_id" .id
    <*> .of .schedule "schedule_type" .integer
    <*> .of .schedule "start_date" (.optional .instant)
    <*> .of .schedule "end_date" (.optional .instant)

def schedule (r : ScheduleRow) : Except Outage Schedule := do
  return { id := r.id, kind := ← decoded "schedule.schedule_type" r.kind, opens := r.opens,
           closes := r.closes }

end ScheduleRow

end Sponsorship.Sql
