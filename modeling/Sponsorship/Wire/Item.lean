import Sponsorship.Catalog.Item
import Sponsorship.Wire.Basic

/-!
# Wire forms of catalog items

Each type has a reader and a writer with the same field names.
-/

namespace Sponsorship

namespace Commission

def reader : Reader Commission := Record.reader "Commission" <|
  Commission.mk <$> .required "commission_type" .word <*> .required "calculated_rate" .single

def json (c : Commission) : Json :=
  .object [("commission_type", .word c.kind), ("calculated_rate", .ofSingle c.rate)]

end Commission

namespace PlatformUrl

def reader : Reader PlatformUrl := Record.reader "PlatformUrl" <|
  PlatformUrl.mk <$> .required "platform" .word <*> .required "url" .text

def json (u : PlatformUrl) : Json :=
  .object [("platform", .word u.platform), ("url", .string u.url)]

end PlatformUrl

namespace Item

def reader : Reader Item := Record.reader "Item" <|
  Item.mk <$> .required "id" .id <*> .required "image_url" .text <*> .required "name" .text
    <*> .required "min_commission" Commission.reader
    <*> .required "max_commission" Commission.reader
    <*> .required "urls" (.list PlatformUrl.reader) <*> .required "has_tieup" .bool
    <*> .required "content_name" .text <*> .required "enabled_self_back" .bool
    <*> .required "is_df" .bool

def json (i : Item) : Json :=
  .object [("id", .ofId i.id), ("image_url", .string i.imageUrl), ("name", .string i.name),
    ("min_commission", i.minimum.json), ("max_commission", i.maximum.json),
    ("urls", .list PlatformUrl.json i.urls), ("has_tieup", .bool i.hasTieup),
    ("content_name", .string i.contentName), ("enabled_self_back", .bool i.selfBackEnabled),
    ("is_df", .bool i.isVariant)]

end Item

namespace Variant

def reader : Reader Variant := Record.reader "DfItem" <|
  Variant.mk <$> .required "id" .id <*> .required "image_url" .text <*> .required "name" .text
    <*> .required "min_commission" Commission.reader
    <*> .required "max_commission" Commission.reader
    <*> .required "urls" (.list PlatformUrl.reader)

def json (v : Variant) : Json :=
  .object [("id", .ofId v.id), ("image_url", .string v.imageUrl), ("name", .string v.name),
    ("min_commission", v.minimum.json), ("max_commission", v.maximum.json),
    ("urls", .list PlatformUrl.json v.urls)]

end Variant

namespace DraftedInfo

def reader : Reader DraftedInfo := Record.reader "DraftedItemInfoInput" <|
  DraftedInfo.mk <$> .required "name" .text <*> .required "content_name" .text
    <*> .required "image_url" .text <*> .required "url" .text
    <*> .required "min_commission" Commission.reader
    <*> .required "max_commission" Commission.reader

def json (d : DraftedInfo) : Json :=
  .object [("name", .string d.name), ("content_name", .string d.contentName),
    ("image_url", .string d.imageUrl), ("url", .string d.url),
    ("min_commission", d.minimum.json), ("max_commission", d.maximum.json)]

end DraftedInfo

def PickInfo.json (p : PickInfo) : Json :=
  .object [("item_id", .ofId p.item), ("df_item_id", .orNull .ofId p.variant),
    ("banner_ids", .ofIds p.banners)]

end Sponsorship
