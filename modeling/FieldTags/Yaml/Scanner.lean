import FieldTags.Yaml.Block
import FieldTags.Yaml.Flow
import FieldTags.Yaml.Property

/-!
# From YAML text to tokens

Blocks are told apart by the columns in which they start, so the scanner knows the columns of the
blocks around it. Whether a node is a key shows only at the colon behind it: until then its place among
the tokens is remembered, and the token of a key is put there afterwards. The colon must come on the
same line and within 1024 characters.
-/

namespace FieldTags.Yaml

/-- A node that is a key if a colon follows. -/
structure PossibleKey where
  /-- Whether the node cannot be anything else where it is. -/
  isRequired : Bool
  /-- The number of tokens in front of it. -/
  number : Nat
  index : Nat
  line : Nat
  column : Nat

/-- Whether a node is too far in front of a place to be the key of a colon there. -/
def PossibleKey.isStale (key : PossibleKey) (c : Cursor) : Bool :=
  key.line < c.line || key.index + 1024 < c.index

/-- The state of the scanner. -/
structure Scanner where
  cursor : Cursor
  tokens : List Token
  /-- The first column right of the start of the innermost block; zero without a block. -/
  margin : Nat
  /-- The same of the blocks around it. -/
  outerMargins : List Nat
  /-- Whether a node may be a key here. -/
  allowsKey : Bool
  possibleKey : Option PossibleKey
  /-- The possible keys outside of each of the brackets and braces around the place. -/
  outerKeys : List (Option PossibleKey)

namespace Scanner

/-- The start of a text. A byte order mark in front of it does not count as text. -/
def start (text : List Char) : Scanner where
  cursor := if text.head? = some '\ufeff' then (Cursor.start text).skip 1 else Cursor.start text
  tokens := []
  margin := 0
  outerMargins := []
  allowsKey := true
  possibleKey := none
  outerKeys := []

def inFlow (s : Scanner) : Bool := s.outerKeys ≠ []

def push (s : Scanner) (token : Token) (c : Cursor) : Scanner :=
  { s with tokens := s.tokens ++ [token], cursor := c }

/-- The scanner with a token that goes in front of those from a number on. -/
def insert (s : Scanner) (number : Nat) (token : Token) : Scanner :=
  { s with tokens := s.tokens.take number ++ token :: s.tokens.drop number }

/-! ## Keys -/

/-- The possible key that remains at a place, where a required one must not be given up. -/
def keptKey (c : Cursor) (key : Option PossibleKey) : Option (Option PossibleKey) :=
  match key with
  | none => some none
  | some k => if !k.isStale c then some (some k) else if k.isRequired then none else some none

/-- The scanner without the possible keys that are too far back. -/
def dropStaleKeys (s : Scanner) : Option Scanner := do
  let key ← keptKey s.cursor s.possibleKey
  let outer ← s.outerKeys.mapM (keptKey s.cursor)
  return { s with possibleKey := key, outerKeys := outer }

/-- The scanner without the last possible key, which must not be required. -/
def dropKey (s : Scanner) : Option Scanner :=
  if s.possibleKey.any (·.isRequired) then none else some { s with possibleKey := none }

/-- The scanner in front of a node, which may be a key if the place allows it. -/
def saveKey (s : Scanner) : Option Scanner :=
  if !s.allowsKey then some s
  else
    s.dropKey.map fun s ↦
      let key : PossibleKey :=
        { isRequired := !s.inFlow && s.margin = s.cursor.column + 1
          number := s.tokens.length
          index := s.cursor.index
          line := s.cursor.line
          column := s.cursor.column }
      { s with possibleKey := some key }

/-! ## Blocks -/

/-- The scanner after the end of the blocks that start right of a column, from the inside. -/
def closeBlocksFrom (tokens : List Token) (margin limit : Nat) (outer : List Nat) :
    List Token × Nat × List Nat :=
  if margin ≤ limit then (tokens, margin, outer)
  else
    match outer with
    | [] => (tokens ++ [.blockEnd], 0, [])
    | next :: outer => closeBlocksFrom (tokens ++ [.blockEnd]) next limit outer

/-- The scanner without the blocks that start right of `limit`, which counts from one. -/
def closeBlocks (s : Scanner) (limit : Nat) : Scanner :=
  if s.inFlow then s
  else
    let (tokens, margin, outer) := closeBlocksFrom s.tokens s.margin limit s.outerMargins
    { s with tokens := tokens, margin := margin, outerMargins := outer }

/-- The scanner in a block in a column, which starts in front of a token if there is none yet. -/
def openBlock (s : Scanner) (column number : Nat) (token : Token) : Scanner :=
  if !s.inFlow && s.margin ≤ column then
    { s.insert number token with margin := column + 1, outerMargins := s.margin :: s.outerMargins }
  else s

/-! ## Tokens -/

/-- The place of the next token and whether it may be a key there. -/
def skipToToken (inFlow allowsKey : Bool) (c : Cursor) : Bool × Cursor :=
  let c' := (c.skipWhile fun b ↦ b = ' ' || ((inFlow || !allowsKey) && b = '\t')).skipComment
  match _h : c'.rest with
  | [] => (allowsKey, c')
  | b :: _ =>
    if _hb : isBreak b then skipToToken inFlow (allowsKey || !inFlow) c'.skipBreak
    else (allowsKey, c')
termination_by c.rest.length
decreasing_by
  refine Nat.lt_of_lt_of_le (Cursor.length_skipBreak _h _hb) ?_
  exact Nat.le_trans (Cursor.length_skipComment _) (Cursor.length_skipWhile _ _)

def readDocumentMark (s : Scanner) (token : Token) (c : Cursor) : Option Scanner :=
  (s.closeBlocks 0).dropKey.map fun s ↦ { s with allowsKey := false }.push token c

def openFlow (s : Scanner) (token : Token) : Option Scanner :=
  s.saveKey.map fun s ↦
    { s with
      allowsKey := true, possibleKey := none, outerKeys := s.possibleKey :: s.outerKeys }.push
        token (s.cursor.skip 1)

def closeFlow (s : Scanner) (token : Token) : Option Scanner :=
  s.dropKey.map fun s ↦
    { s with
      allowsKey := false, possibleKey := s.outerKeys.head?.join
      outerKeys := s.outerKeys.tail }.push token (s.cursor.skip 1)

def readFlowEntry (s : Scanner) : Option Scanner :=
  s.dropKey.map fun s ↦ { s with allowsKey := true }.push .flowEntry (s.cursor.skip 1)

/-- The scanner behind a mark that starts a block of its kind if there is none in its column. -/
def readBlockMark (s : Scanner) (start mark : Token) (allowsKey : Bool) : Option Scanner :=
  if s.inFlow || s.allowsKey then
    (s.openBlock s.cursor.column s.tokens.length start).dropKey.map fun s ↦
      { s with allowsKey := allowsKey }.push mark (s.cursor.skip 1)
  else none

def readValueMark (s : Scanner) : Option Scanner :=
  match s.possibleKey with
  | some key =>
    let s := (s.insert key.number .key).openBlock key.column key.number .blockMapStart
    some ({ s with allowsKey := false, possibleKey := none }.push .value (s.cursor.skip 1))
  | none =>
    if s.inFlow || s.allowsKey then
      let s := s.openBlock s.cursor.column s.tokens.length .blockMapStart
      some ({ s with allowsKey := !s.inFlow }.push .value (s.cursor.skip 1))
    else none

def readProperty (s : Scanner) (read : Cursor → Option (Token × Cursor)) : Option Scanner := do
  let s ← s.saveKey
  let (token, c) ← read s.cursor
  return { s with allowsKey := false }.push token c

def readFlowScalar (s : Scanner) (style : ScalarStyle) (read : Cursor → Option ReadScalar) :
    Option Scanner := do
  let s ← s.saveKey
  let scalar ← read s.cursor
  return { s with allowsKey := scalar.endedLine }.push
    (.scalar style (.ofList scalar.text)) scalar.cursor

def readBlockScalar (s : Scanner) (folded : Bool) : Option Scanner := do
  let s ← s.dropKey
  let (text, c) ← readBlock folded s.margin s.cursor
  return { s with allowsKey := true }.push
    (.scalar (if folded then .folded else .literal) (.ofList text)) c

/-- Whether a plain scalar may start here, where nothing else does. -/
def startsPlain (inFlow : Bool) (b : Char) (rest : List Char) : Bool :=
  if b = '-' then !rest.head?.any isSpace
  else if b = '?' || b = ':' then !inFlow && !endsWord rest
  else !isSpace b && !isFlowMark b && !"#&*!|>'\"%@\x60".toList.contains b

/-- The scanner behind the token that starts with a character. -/
def readToken (s : Scanner) (b : Char) (rest : List Char) : Option Scanner :=
  let c := s.cursor
  let isWord := endsWord rest
  if c.column = 0 && b = '%' then
    (readDirective c).bind fun (token, c) ↦ s.readDocumentMark token c
  else if c.atMark '-' then s.readDocumentMark .documentStart (c.skip 3)
  else if c.atMark '.' then s.readDocumentMark .documentEnd (c.skip 3)
  else if b = '[' then s.openFlow .flowListStart
  else if b = '{' then s.openFlow .flowMapStart
  else if b = ']' then s.closeFlow .flowListEnd
  else if b = '}' then s.closeFlow .flowMapEnd
  else if b = ',' then s.readFlowEntry
  else if b = '-' && isWord then s.readBlockMark .blockListStart .blockEntry true
  else if b = '?' && (s.inFlow || isWord) then s.readBlockMark .blockMapStart .key !s.inFlow
  else if b = ':' && (s.inFlow || isWord) then s.readValueMark
  else if b = '*' then s.readProperty (readAnchor true)
  else if b = '&' then s.readProperty (readAnchor false)
  else if b = '!' then s.readProperty (readTag s.inFlow)
  else if b = '|' && !s.inFlow then s.readBlockScalar false
  else if b = '>' && !s.inFlow then s.readBlockScalar true
  else if b = '"' || b = '\'' then s.readFlowScalar .quoted (readQuoted b)
  else if startsPlain s.inFlow b rest then s.readFlowScalar .plain (readPlain s.inFlow s.margin)
  else none

/-- All tokens of a text, whose end closes all blocks. -/
def readAll (s : Scanner) : Option (List Token) :=
  let (allowsKey, c) := skipToToken s.inFlow s.allowsKey s.cursor
  match { s with allowsKey := allowsKey, cursor := c }.dropStaleKeys with
  | none => none
  | some next =>
    match c.rest with
    | [] => (next.closeBlocks 0).dropKey.map (·.tokens)
    | b :: rest =>
      match (next.closeBlocks (c.column + 1)).readToken b rest with
      | none => none
      | some next =>
        if next.cursor.rest.length < s.cursor.rest.length then readAll next else none
termination_by s.cursor.rest.length

end Scanner

/-- The tokens of a text, unless it holds a character that it may not. -/
def readTokens (text : List Char) : Option (List Token) :=
  if text.all isAllowed then (Scanner.start text).readAll else none

end FieldTags.Yaml
