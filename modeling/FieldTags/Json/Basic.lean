import FieldTags.Number.Layout

/-!
# JSON values

A JSON number is an integer of at most 64 bits, kept exactly, or a finite binary number. The members
of an object stand in a list. A document read from text has them in the order and with the
repetitions of the text; in canonical form they are sorted by key and the last of equal keys has
won. Texts are compared by code points.
-/

namespace FieldTags

/-- A JSON number: an exact integer of at most 64 bits or a finite binary number. -/
inductive JsonNumber where
  /-- An integer from `-2 ^ 63` up to, and not including, `2 ^ 64`. -/
  | integer (value : Int) (inRange : minInt64 ≤ value ∧ value ≤ maxUInt64)
  /-- A finite binary number. -/
  | float (value : Binary64) (finite : value.isFinite = true)
  deriving DecidableEq

namespace JsonNumber

def ofInt? (n : Int) : Option JsonNumber :=
  if h : minInt64 ≤ n ∧ n ≤ maxUInt64 then some (.integer n h) else none

def ofBinary64? (x : Binary64) : Option JsonNumber :=
  if h : x.isFinite = true then some (.float x h) else none

def toBinary64 : JsonNumber → Binary64
  | .integer n _ => .ofInt n
  | .float x _ => x

/-- The text of a number in a JSON document. -/
def text : JsonNumber → String
  | .integer n _ => toString n
  | .float x _ => NumberLayout.json.text x

end JsonNumber

/-- A JSON value. -/
inductive Json where
  | null
  | bool (value : Bool)
  | number (value : JsonNumber)
  | string (value : String)
  | array (items : List Json)
  | object (members : List (String × Json))

namespace Json

instance : Inhabited Json := ⟨.null⟩

/-- A small whole number, one of the integers of at most 32 bits. -/
def ofUInt32 (n : UInt32) : Json :=
  .number (.integer n.toNat (by have := n.toNat_lt; simp only [minInt64, maxUInt64]; omega))

/-- An integer as a JSON number, or as the nearest binary number if it has more than 64 bits. -/
def ofInt (n : Int) : Json :=
  match JsonNumber.ofInt? n with
  | some exact => .number exact
  | none =>
    match JsonNumber.ofBinary64? (.ofInt n) with
    | some nearest => .number nearest
    | none => .null

/-- A binary number as a JSON number; what is not finite has no JSON number and becomes null. -/
def ofBinary64 (x : Binary64) : Json :=
  match JsonNumber.ofBinary64? x with
  | some finite => .number finite
  | none => .null

theorem ofBinary64_of_isFinite {x : Binary64} (h : x.isFinite = true) :
    ofBinary64 x = .number (.float x h) := by
  rw [ofBinary64, JsonNumber.ofBinary64?, dif_pos h]

/--
The JSON form of the result of a calculation: whole numbers below `2 ^ 53` are integers, other
finite numbers keep their binary value and the rest is null.
-/
def ofCalculation (x : Binary64) : Json :=
  match x.toInt? with
  | some n => if n.natAbs < twoPow 53 then ofInt n else ofBinary64 x
  | none => ofBinary64 x

/-- The members with one more, in its place by key; a member with the same key gives way to it. -/
def insertMember (key : String) (value : Json) : List (String × Json) → List (String × Json)
  | [] => [(key, value)]
  | member :: rest =>
    if key = member.1 then (key, value) :: rest
    else if key < member.1 then (key, value) :: member :: rest
    else member :: insertMember key value rest

/-- The object with the given members in canonical order. -/
def ofMembers (members : List (String × Json)) : Json :=
  .object (members.foldl (fun sorted member ↦ insertMember member.1 member.2 sorted) [])

mutual

/-- The value with the members of all its objects sorted by key, the last of equal keys winning. -/
def canonical : Json → Json
  | .null => .null
  | .bool value => .bool value
  | .number value => .number value
  | .string value => .string value
  | .array items => .array (canonicalItems items)
  | .object members => .object (canonicalMembers [] members)

def canonicalItems : List Json → List Json
  | [] => []
  | item :: rest => item.canonical :: canonicalItems rest

def canonicalMembers (sorted : List (String × Json)) : List (String × Json) → List (String × Json)
  | [] => sorted
  | (key, value) :: rest => canonicalMembers (insertMember key value.canonical sorted) rest

end

def member? (value : Json) (key : String) : Option Json :=
  match value with
  | .object members => members.lookup key
  | _ => none

end Json

end FieldTags
