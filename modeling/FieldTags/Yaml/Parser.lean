import FieldTags.Yaml.Node
import FieldTags.Yaml.Scanner

/-!
# From tokens to a document

Keys, values and items may be left out, which makes them empty scalars. A list that is the value of a
key needs no indentation: it then starts and ends without a token of its own. In brackets a pair of a
key and a value is a map of its own.
-/

namespace FieldTags.Yaml

/-- The names of anchors so far with their numbers, the latest first. -/
abbrev Anchors := List (String × Nat)

namespace Anchors

/-- The number of a new anchor: that of its names so far, where names that come again count once. -/
def next (anchors : Anchors) : Nat :=
  (anchors.map Prod.fst).eraseDups.length

def add (anchors : Anchors) (name : String) : Anchors :=
  (name, anchors.next) :: anchors

end Anchors

/-- What has been read from tokens. -/
structure Parsed (α : Type) where
  value : α
  anchors : Anchors
  rest : List Token

def Parsed.map {α β : Type} (f : α → β) (p : Parsed α) : Parsed β :=
  ⟨f p.value, p.anchors, p.rest⟩

/-- What stands in front of a node. -/
structure Properties where
  anchor : Option String
  /-- The handle and the rest of the tag. -/
  tag : Option (String × String)

namespace Properties

/-- The properties at a place and what follows them. -/
def read : List Token → Properties × List Token
  | .anchor a :: .tag h t :: rest => (⟨some a, some (h, t)⟩, rest)
  | .tag h t :: .anchor a :: rest => (⟨some a, some (h, t)⟩, rest)
  | .anchor a :: rest => (⟨some a, none⟩, rest)
  | .tag h t :: rest => (⟨none, some (h, t)⟩, rest)
  | rest => (⟨none, none⟩, rest)

theorem length_read (tokens : List Token) : (read tokens).2.length ≤ tokens.length := by
  unfold read
  split <;> simp <;> omega

end Properties

/-- What the handles of tags stand for. -/
abbrev TagHandles := List (String × String)

def TagHandles.expand? (handles : TagHandles) : Option (String × String) → Option (Option String)
  | none => some none
  | some (handle, suffix) =>
    if handle = "" then some (some suffix)
    else (handles.lookup handle).map fun expansion ↦ some (expansion ++ suffix)

/-- A scalar, whose tag counts for nothing if it is a single exclamation mark. -/
def Scalar.ofToken (style : ScalarStyle) (text : String) (tag : Option String) : Scalar :=
  ⟨text, style, if tag = some "!" then none else tag⟩

def Node.withAnchor (node : Node) : Option Nat → Node
  | some number => .anchored number node
  | none => node

/-- Where a node is. -/
inductive Place
  | flow
  | block
  /-- A key or a value of a block, which may be a list without indentation. -/
  | member
deriving DecidableEq

/-- The tokens behind a comma, which stands in front of all but the first item of brackets. -/
def skipComma (isFirst : Bool) (tokens : List Token) : Option (List Token) :=
  if isFirst then some tokens
  else
    match tokens with
    | .flowEntry :: rest => some rest
    | _ => none

theorem length_skipComma {isFirst : Bool} {tokens rest : List Token}
    (h : skipComma isFirst tokens = some rest) : rest.length ≤ tokens.length := by
  unfold skipComma at h
  split at h
  · simp_all
  · split at h <;> simp_all

mutual

def readNode (handles : TagHandles) (place : Place) (anchors : Anchors) (tokens : List Token) :
    Option (Parsed Node) :=
  match tokens with
  | .alias name :: rest => (anchors.lookup name).map fun number ↦ ⟨.alias number, anchors, rest⟩
  | tokens =>
    let properties := (Properties.read tokens).1
    match handles.expand? properties.tag with
    | none => none
    | some tag =>
      let named := match properties.anchor with
        | some name => anchors.add name
        | none => anchors
      have := Properties.length_read tokens
      (readContent handles place (properties.anchor.isSome || tag.isSome) tag named
        (Properties.read tokens).2).map (Parsed.map fun node ↦
          node.withAnchor (properties.anchor.map fun _ ↦ anchors.next))
termination_by 8 * tokens.length + 2

/-- What a node consists of behind its properties, without which it must not be left out. -/
def readContent (handles : TagHandles) (place : Place) (hasProperties : Bool)
    (tag : Option String) (anchors : Anchors) (tokens : List Token) : Option (Parsed Node) :=
  let nothing : Option (Parsed Node) :=
    if hasProperties then some ⟨.scalar ⟨"", .plain, tag⟩, anchors, tokens⟩ else none
  match tokens with
  | .scalar style text :: rest => some ⟨.scalar (.ofToken style text tag), anchors, rest⟩
  | .flowListStart :: rest => (readFlowItems handles true anchors rest).map (Parsed.map .list)
  | .flowMapStart :: rest => (readFlowMembers handles true anchors rest).map (Parsed.map .map)
  | .blockListStart :: rest =>
    if place = .flow then nothing
    else (readItems handles anchors rest).map (Parsed.map .list)
  | .blockMapStart :: rest =>
    if place = .flow then nothing
    else (readMembers handles anchors rest).map (Parsed.map .map)
  | .blockEntry :: rest =>
    if place = .member then
      (readLooseItems handles anchors (.blockEntry :: rest)).map (Parsed.map .list)
    else nothing
  | _ => nothing
termination_by 8 * tokens.length + 1

/-- The node at a place, which is empty in front of some tokens. -/
def readOptional (handles : TagHandles) (place : Place) (ends : List Token) (anchors : Anchors)
    (tokens : List Token) : Option (Parsed Node) :=
  if tokens.head?.any ends.contains then some ⟨.empty, anchors, tokens⟩
  else readNode handles place anchors tokens
termination_by 8 * tokens.length + 3

/-- The value at a place, which is empty without a colon. -/
def readValue (handles : TagHandles) (place : Place) (ends : List Token) (anchors : Anchors)
    (tokens : List Token) : Option (Parsed Node) :=
  match tokens with
  | .value :: rest => readOptional handles place ends anchors rest
  | tokens => some ⟨.empty, anchors, tokens⟩
termination_by 8 * tokens.length + 4

def readItems (handles : TagHandles) (anchors : Anchors) (tokens : List Token) :
    Option (Parsed (List Node)) :=
  match tokens with
  | .blockEntry :: rest => do
    let item ← readOptional handles .block [.blockEntry, .blockEnd] anchors rest
    if item.rest.length ≤ rest.length then
      return (← readItems handles item.anchors item.rest).map (item.value :: ·)
    else none
  | .blockEnd :: rest => some ⟨[], anchors, rest⟩
  | _ => none
termination_by 8 * tokens.length

/-- The items of a list without indentation. -/
def readLooseItems (handles : TagHandles) (anchors : Anchors) (tokens : List Token) :
    Option (Parsed (List Node)) :=
  match tokens with
  | .blockEntry :: rest => do
    let item ← readOptional handles .block [.blockEntry, .key, .value, .blockEnd] anchors rest
    if item.rest.length ≤ rest.length then
      return (← readLooseItems handles item.anchors item.rest).map (item.value :: ·)
    else none
  | tokens => some ⟨[], anchors, tokens⟩
termination_by 8 * tokens.length

/-- The key behind its mark and its value in a block. -/
def readMember (handles : TagHandles) (anchors : Anchors) (tokens : List Token) :
    Option (Parsed (Node × Node)) := do
  let key ← readOptional handles .member [.key, .value, .blockEnd] anchors tokens
  if key.rest.length ≤ tokens.length then
    let value ← readValue handles .member [.key, .value, .blockEnd] key.anchors key.rest
    return value.map fun value ↦ (key.value, value)
  else none
termination_by 8 * tokens.length + 5

def readMembers (handles : TagHandles) (anchors : Anchors) (tokens : List Token) :
    Option (Parsed (List (Node × Node))) :=
  match tokens with
  | .key :: rest => do
    let member ← readMember handles anchors rest
    if member.rest.length ≤ rest.length then
      return (← readMembers handles member.anchors member.rest).map (member.value :: ·)
    else none
  | .blockEnd :: rest => some ⟨[], anchors, rest⟩
  | _ => none
termination_by 8 * tokens.length

def readFlowItems (handles : TagHandles) (isFirst : Bool) (anchors : Anchors)
    (tokens : List Token) : Option (Parsed (List Node)) :=
  match tokens with
  | .flowListEnd :: rest => some ⟨[], anchors, rest⟩
  | tokens =>
    match _h : skipComma isFirst tokens with
    | none => none
    | some (.flowListEnd :: rest) => some ⟨[], anchors, rest⟩
    | some rest => do
      have := length_skipComma _h
      let item ← readFlowItem handles anchors rest
      if item.rest.length < tokens.length then
        return (← readFlowItems handles false item.anchors item.rest).map (item.value :: ·)
      else none
termination_by 8 * tokens.length + 6

def readFlowItem (handles : TagHandles) (anchors : Anchors) (tokens : List Token) :
    Option (Parsed Node) :=
  match tokens with
  | .key :: rest => do
    let key ← readPairKey handles anchors rest
    if key.rest.length ≤ rest.length then
      let value ← readValue handles .flow [.flowEntry, .flowListEnd] key.anchors key.rest
      return value.map fun value ↦ .map [(key.value, value)]
    else none
  | tokens => readNode handles .flow anchors tokens
termination_by 8 * tokens.length + 5

/-- The key of a pair in brackets; a token that ends the pair is skipped if there is none. -/
def readPairKey (handles : TagHandles) (anchors : Anchors) (tokens : List Token) :
    Option (Parsed Node) :=
  match tokens with
  | .value :: rest | .flowEntry :: rest | .flowListEnd :: rest => some ⟨.empty, anchors, rest⟩
  | tokens => readNode handles .flow anchors tokens
termination_by 8 * tokens.length + 3

def readFlowMembers (handles : TagHandles) (isFirst : Bool) (anchors : Anchors)
    (tokens : List Token) : Option (Parsed (List (Node × Node))) :=
  match tokens with
  | .flowMapEnd :: rest => some ⟨[], anchors, rest⟩
  | tokens =>
    match _h : skipComma isFirst tokens with
    | none => none
    | some (.flowMapEnd :: rest) => some ⟨[], anchors, rest⟩
    | some rest => do
      have := length_skipComma _h
      let member ← readFlowMember handles anchors rest
      if member.rest.length < tokens.length then
        return (← readFlowMembers handles false member.anchors member.rest).map (member.value :: ·)
      else none
termination_by 8 * tokens.length + 6

/-- A member of a map in braces, where a node without a colon is a key with an empty value. -/
def readFlowMember (handles : TagHandles) (anchors : Anchors) (tokens : List Token) :
    Option (Parsed (Node × Node)) :=
  match tokens with
  | .key :: rest => do
    let key ← readOptional handles .flow [.value, .flowEntry, .flowMapEnd] anchors rest
    if key.rest.length ≤ rest.length then
      let value ← readValue handles .flow [.flowEntry, .flowMapEnd] key.anchors key.rest
      return value.map fun value ↦ (key.value, value)
    else none
  | tokens => (readNode handles .flow anchors tokens).map (Parsed.map fun key ↦ (key, .empty))
termination_by 8 * tokens.length + 5

end

/-! ## Documents -/

/-- The handles that directives declare, and what follows the directives. -/
structure Prologue where
  handles : TagHandles
  rest : List Token

/-- The directives at a place, of which one may be a version. -/
def readDirectives (handles : TagHandles) (hasVersion : Bool) : List Token → Option Prologue
  | .version major minor :: rest =>
    if !hasVersion && major = 1 && (minor = 1 || minor = 2) then readDirectives handles true rest
    else none
  | .tagHandle handle expansion :: rest =>
    if (handles.lookup handle).isNone then
      readDirectives (handles ++ [(handle, expansion)]) hasVersion rest
    else none
  | rest => some ⟨handles, rest⟩

def TagHandles.default : TagHandles :=
  [("!", "!"), ("!!", "tag:yaml.org,2002:")]

/-- The only document of some tokens. It may have no mark at its start if it has no directives. -/
def parseDocument (tokens : List Token) : Option Node := do
  let prologue ← readDirectives [] false tokens
  let handles := prologue.handles ++ TagHandles.default
  let document ←
    match prologue.rest with
    | [.documentStart] => some ⟨.empty, [], []⟩
    | .documentStart :: rest =>
      readOptional handles .block [.documentStart, .documentEnd] [] rest
    | rest => if rest.length < tokens.length then none else readNode handles .block [] rest
  guard (document.rest.all (· = .documentEnd))
  return document.value

/-- The only document of a text. -/
def readDocument (text : String) : Option Node :=
  (readTokens text.toList).bind parseDocument

end FieldTags.Yaml
