import FieldTags.Json.Record

/-!
# Display values

What a cell of a table shows: a text, an image, items or a link. For an export everything is
flattened to plain text.
-/

namespace FieldTags

/-- What a cell shows. -/
inductive DisplayValue where
  | text (text : String)
  | image (source : String) (width height : UInt32)
  /-- Items, each in a tag of its own. -/
  | tags (items : List String)
  /-- Images of persons. -/
  | avatars (items : List String)
  /-- A text that leads somewhere. -/
  | link (target : String) (text : String)
  deriving DecidableEq

namespace DisplayValue

/-- The plain text of what a cell shows: images give their source, items are joined. -/
def toPlainText (separator : String) : DisplayValue → String
  | .text content => content
  | .image source _ _ => source
  | .tags items => separator.intercalate items
  | .avatars items => separator.intercalate items
  | .link _ content => content

def toJson : DisplayValue → Json
  | .text content => .object [("kind", .string "text"), ("text", .string content)]
  | .image source width height =>
    .object [("kind", .string "image"), ("src", .string source), ("width", .ofUInt32 width),
      ("height", .ofUInt32 height)]
  | .tags items => .object [("kind", .string "tags"), ("items", .array (items.map .string))]
  | .avatars items =>
    .object [("kind", .string "avatar-group"), ("items", .array (items.map .string))]
  | .link target content =>
    .object [("kind", .string "link"), ("href", .string target), ("text", .string content)]

def kind? : JsonDocument → Option String
  | .object members =>
    match members.filter (·.1 = "kind") with
    | [(_, .string kind)] => some kind
    | _ => none
  | .array (.string kind :: _) => some kind
  | _ => none

/-- What a cell shows, from a document that has a value as a whole. -/
def ofDocument? (document : JsonDocument) : Option DisplayValue := do
  let document ← document.whole?
  let kind ← kind? document
  if kind = "text" then
    let r ← JsonDocument.Record.of? ["kind", "text"] document
    return .text (← r.required "text" JsonDocument.string?)
  else if kind = "image" then
    let r ← JsonDocument.Record.of? ["kind", "src", "width", "height"] document
    return .image (← r.required "src" JsonDocument.string?) (← r.required "width" JsonDocument.uint32?)
      (← r.required "height" JsonDocument.uint32?)
  else if kind = "tags" then
    let r ← JsonDocument.Record.of? ["kind", "items"] document
    return .tags (← r.required "items" (JsonDocument.list? JsonDocument.string?))
  else if kind = "avatar-group" then
    let r ← JsonDocument.Record.of? ["kind", "items"] document
    return .avatars (← r.required "items" (JsonDocument.list? JsonDocument.string?))
  else if kind = "link" then
    let r ← JsonDocument.Record.of? ["kind", "href", "text"] document
    return .link (← r.required "href" JsonDocument.string?) (← r.required "text" JsonDocument.string?)
  else none

end DisplayValue

end FieldTags
