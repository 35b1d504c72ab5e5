import FieldTags.Json.Coercion

/-!
# Values of expressions

Evaluation works on scalars and on references to the arrays and objects of a scope. A reference
knows the place of its target: the name it was reached by and the keys and indices that lead from
there. Two references are the same array or object exactly when their places are equal.

Coercions are the loose ones of a script. The equality operators and the order never look into an
array or an object; where a scalar is needed, it counts as its text.
-/

namespace FieldTags

/-- One step on the way to a value inside another. -/
inductive PlaceStep where
  | key (name : String)
  | item (index : Nat)
  deriving DecidableEq

/-- Where a value is found in a scope. -/
structure Place where
  /-- The name that leads into the scope. -/
  root : String
  /-- The steps from there, last first. -/
  steps : List PlaceStep
  deriving DecidableEq

/-- A value that an expression can have. -/
inductive ScriptValue where
  | undefined
  | null
  | bool (value : Bool)
  | number (value : Binary64)
  | text (value : String)
  /-- An array or object of the scope, and where it is found. -/
  | reference (place : Place) (target : Json)

namespace ScriptValue

def ofJson (place : Place) : Json → ScriptValue
  | .null => .null
  | .bool b => .bool b
  | .number n => .number n.toBinary64
  | .string s => .text s
  | .array items => .reference place (.array items)
  | .object members => .reference place (.object members)

/-- The JSON data of a value; an undefined value has none. -/
def toJson? : ScriptValue → Option Json
  | .undefined => none
  | .null => some .null
  | .bool b => some (.bool b)
  | .number x => some (.ofCalculation x)
  | .text s => some (.string s)
  | .reference _ target => some target

def isNullish : ScriptValue → Bool
  | .undefined => true
  | .null => true
  | _ => false

def isTruthy : ScriptValue → Bool
  | .undefined => false
  | .null => false
  | .bool b => b
  | .number x => !x.isZero && !x.isNaN
  | .text s => s ≠ ""
  | .reference _ _ => true

/-- The number that a value counts as, which may be not a number. -/
def toNumber : ScriptValue → Binary64
  | .undefined => .nan
  | .null => .ofNat 0
  | .bool b => .ofNat (if b then 1 else 0)
  | .number x => x
  | .text s => if Text.allBlank s then .ofNat 0 else (Binary64.ofText? s).getD .nan
  | .reference _ target => target.toNumber?.getD .nan

def toText : ScriptValue → String
  | .undefined => "undefined"
  | .null => "null"
  | .bool b => if b then "true" else "false"
  | .number x => x.scriptText
  | .text s => s
  | .reference _ (.array items) => (Json.array items).displayText
  | .reference _ _ => "[object Object]"

/-- The value with an array or object replaced by its text. -/
def toScalar : ScriptValue → ScriptValue
  | .reference place target => .text (ScriptValue.reference place target).toText
  | value => value

def kindName : ScriptValue → String
  | .undefined => "undefined"
  | .null => "null"
  | .bool _ => "boolean"
  | .number _ => "number"
  | .text _ => "string"
  | .reference _ _ => "object"

/-! ## Properties -/

/-- The number of code units of a text in UTF-16. -/
def unitCount (cs : List Char) : Nat :=
  cs.foldl (fun count c ↦ count + if c.toNat < 0x10000 then 1 else 2) 0

/-- The index that a key of digits stands for. -/
def index? (key : String) : Option Nat :=
  if key ≠ "" && key.toList.all Char.isDigit then some (Decimal.digitsValue key.toList) else none

/--
The property of a value. Objects have their members, arrays and texts their length and their items
or characters; every other property is undefined. Null and undefined values have no properties, not
even undefined ones.
-/
def property? (target : ScriptValue) (key : String) : Option ScriptValue :=
  match target with
  | .undefined => none
  | .null => none
  | .reference place (.object members) =>
    match members.lookup key with
    | some value => some (.ofJson ⟨place.root, .key key :: place.steps⟩ value)
    | none => some .undefined
  | .reference place (.array items) =>
    if key = "length" then some (.number (.ofNat items.length))
    else
      match index? key with
      | none => some .undefined
      | some i =>
        match items[i]? with
        | some value => some (.ofJson ⟨place.root, .item i :: place.steps⟩ value)
        | none => some .undefined
  | .text s =>
    if key = "length" then some (.number (.ofNat (unitCount s.toList)))
    else
      match (index? key).bind (s.toList[·]?) with
      | some c => some (.text c.toString)
      | none => some .undefined
  | _ => some .undefined

/-! ## Comparison -/

/--
Equality without coercion. References are equal if they lead to the same place, and what is not a
number equals nothing.
-/
def strictEquals : ScriptValue → ScriptValue → Bool
  | .undefined, .undefined => true
  | .null, .null => true
  | .bool a, .bool b => a == b
  | .number x, .number y => x.equals y
  | .text s, .text t => s == t
  | .reference p _, .reference q _ => p == q
  | _, _ => false

/-- Loose equality of two scalars that are neither null nor undefined nor truth values. -/
def looseEqualsScalar : ScriptValue → ScriptValue → Bool
  | .number x, .text t => x.equals (ScriptValue.text t).toNumber
  | .text s, .number y => (ScriptValue.text s).toNumber.equals y
  | left, right => strictEquals left right

/-- A truth value as the number that it counts as. -/
def unboxBool : ScriptValue → ScriptValue
  | .bool b => .number (ScriptValue.bool b).toNumber
  | value => value

/--
Equality with coercion. Null and undefined are equal to each other and to nothing else. Truth values
count as numbers; an array or object counts as its text unless it is compared with another one; a
number and a text are compared as numbers.
-/
def looseEquals (left right : ScriptValue) : Bool :=
  if left.isNullish || right.isNullish then left.isNullish && right.isNullish
  else
    match left, right with
    | .bool a, .bool b => strictEquals (unboxBool (.bool a)) (unboxBool (.bool b))
    | .reference p s, .reference q t => strictEquals (.reference p s) (.reference q t)
    | left, right => looseEqualsScalar (unboxBool left).toScalar (unboxBool right).toScalar

/-- How two values compare: texts by code points, everything else by number. -/
def order? (left right : ScriptValue) : Option Ordering :=
  match left.toScalar, right.toScalar with
  | .text s, .text t => some (compare s t)
  | left, right => left.toNumber.compare? right.toNumber

/-- The sum of numbers, or the concatenation of texts if one of the values is a text. -/
def add (left right : ScriptValue) : ScriptValue :=
  match left.toScalar, right.toScalar with
  | .text s, right => .text (s ++ right.toText)
  | left, .text t => .text (left.toText ++ t)
  | left, right => .number (left.toNumber.add right.toNumber)

end ScriptValue

end FieldTags
