import FieldTags.Json.Record
import FieldTags.Text.Split

/-!
# Settings of the display

The texts and sizes that the display of values uses. Each of them has a default, so that a document
of settings names only those that differ.
-/

namespace FieldTags

/-- The texts and sizes that the display of values uses. -/
structure RenderSettings where
  /-- What stands for a value that there is not. -/
  placeholder : String
  /-- What stands between the items of a flat list. -/
  flatSeparator : String
  /-- What stands behind the number of items. -/
  countUnit : String
  /-- The route to the details of an item, with places for its model and its identifier. -/
  linkRoute : String
  utcOffsetMinutes : Int
  /-- The names of the days of the week from Sunday on. -/
  weekdayNames : Vector String 7
  imageWidth : UInt32
  imageHeight : UInt32
  deriving DecidableEq

namespace RenderSettings

def default : RenderSettings where
  placeholder := "--"
  flatSeparator := "，"
  countUnit := "个"
  linkRoute := "/{model}/detail/{id}"
  utcOffsetMinutes := 0
  weekdayNames := #v["日", "一", "二", "三", "四", "五", "六"]
  imageWidth := 40
  imageHeight := 40

/--
The route to the details of an item. The place of the model is filled first, so that a name of a
model that holds the place of the identifier has it filled too.
-/
def linkTarget (settings : RenderSettings) (model id : String) : String :=
  Text.replaceAll (Text.replaceAll settings.linkRoute "{model}" model) "{id}" id

def toJson (settings : RenderSettings) : Json :=
  .object [("placeholder", .string settings.placeholder),
    ("flatSeparator", .string settings.flatSeparator),
    ("countUnit", .string settings.countUnit),
    ("linkRoute", .string settings.linkRoute),
    ("utcOffsetMinutes", .ofInt settings.utcOffsetMinutes),
    ("weekdayNames", .array (settings.weekdayNames.toList.map .string)),
    ("imageWidth", .ofUInt32 settings.imageWidth),
    ("imageHeight", .ofUInt32 settings.imageHeight)]

def weekdayNames? (value : JsonDocument) : Option (Vector String 7) :=
  (value.list? JsonDocument.string?).bind fun names ↦
    if h : names.toArray.size = 7 then some ⟨names.toArray, h⟩ else none

def members : List String :=
  ["placeholder", "flatSeparator", "countUnit", "linkRoute", "utcOffsetMinutes", "weekdayNames",
    "imageWidth", "imageHeight"]

def ofDocument? (document : JsonDocument) : Option RenderSettings := do
  let r ← JsonDocument.Record.of? members document
  return {
    placeholder := ← r.defaulted "placeholder" default.placeholder JsonDocument.string?
    flatSeparator := ← r.defaulted "flatSeparator" default.flatSeparator JsonDocument.string?
    countUnit := ← r.defaulted "countUnit" default.countUnit JsonDocument.string?
    linkRoute := ← r.defaulted "linkRoute" default.linkRoute JsonDocument.string?
    utcOffsetMinutes := ← r.defaulted "utcOffsetMinutes" default.utcOffsetMinutes
      (JsonDocument.int? minInt32 maxInt32)
    weekdayNames := ← r.defaulted "weekdayNames" default.weekdayNames weekdayNames?
    imageWidth := ← r.defaulted "imageWidth" default.imageWidth JsonDocument.uint32?
    imageHeight := ← r.defaulted "imageHeight" default.imageHeight JsonDocument.uint32? }

end RenderSettings

end FieldTags
