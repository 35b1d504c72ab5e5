import FieldTags.Number.Literal
import FieldTags.Yaml.Node

/-!
# Values in YAML documents

What a node stands for depends on what is asked for. Each scalar is a text. A plain scalar can be a whole
number or null, and one without text is also an empty list and an empty map.
-/

namespace FieldTags.Yaml

def isNullText (text : String) : Bool :=
  text = "~" || text = "null" || text = "Null" || text = "NULL"

/-- The absolute value of a whole number: decimal digits without a zero in front, or behind a base. -/
def magnitude? (cs : List Char) : Option Nat :=
  match cs with
  | '0' :: 'x' :: d :: digits => Literal.readDigits 16 (d :: digits)
  | '0' :: 'o' :: d :: digits => Literal.readDigits 8 (d :: digits)
  | '0' :: 'b' :: d :: digits => Literal.readDigits 2 (d :: digits)
  | ['0'] => some 0
  | '0' :: _ => none
  | [] => none
  | digits => Literal.readDigits 10 digits

/-- The whole number that a text stands for, where minus may be forbidden. -/
def wholeNumber? (allowsMinus : Bool) (text : String) : Option Int :=
  match text.toList with
  | '-' :: cs => if allowsMinus then (magnitude? cs).map fun n ↦ -(n : Int) else none
  | '+' :: cs => (magnitude? cs).map Int.ofNat
  | cs => (magnitude? cs).map Int.ofNat

namespace Scalar

/-- Whether a scalar is plain and without text. -/
def isEmpty (s : Scalar) : Bool := s.style = .plain && s.text = ""

/-- Whether a scalar can be a number: it is plain, or a block that is said to be one. -/
def maybeNumber (s : Scalar) : Bool :=
  s.style = .plain || (s.style = .literal && s.tag = some "tag:yaml.org,2002:int")

/-- The name behind the exclamation mark of a tag of its own. -/
def tagName? (s : Scalar) : Option String :=
  match s.tag.map String.toList with
  | some ('!' :: name) => some (.ofList name)
  | _ => none

/-- Whether a scalar is null, unless it cannot be said to be what its tag says. -/
def isNull? (s : Scalar) : Option Bool :=
  if s.style ≠ .plain then some false
  else
    match s.tag with
    | none => some (s.text = "" || isNullText s.text)
    | some "tag:yaml.org,2002:null" => if isNullText s.text then some true else none
    | some _ => some false

/-- The one of some named things that a scalar stands for; it may name it in its tag. -/
def choice? {α : Type} (ofName? : String → Option α) (s : Scalar) : Option α :=
  match s.tagName? with
  | some name =>
    if s.style = .plain && (s.text = "" || isNullText s.text) then ofName? name else none
  | none => ofName? s.text

end Scalar

/-- A node in a document, which says what aliases stand for. -/
structure Value where
  document : Node
  node : Node

/-- The members of a map whose keys are texts. -/
abbrev Members := List (String × Value)

/-- The readable member of a name, or a value without one. It must not occur twice. -/
def Members.valueOr {α : Type} (members : Members) (name : String) (default : α)
    (read? : Value → Option α) : Option α :=
  match members.filter (·.1 = name) with
  | [] => some default
  | [member] => read? member.2
  | _ => none

namespace Value

/-- The node that an alias stands for, or the node itself. -/
def target (value : Value) : Node :=
  match value.node with
  | .alias number =>
    let anchored := value.document.anchors.filter (·.1 = number)
    (anchored.getLast?.map Prod.snd).getD .empty
  | .anchored _ node => node
  | node => node

def scalar? (value : Value) : Option Scalar :=
  match value.target with
  | .scalar s => some s
  | _ => none

def text? (value : Value) : Option String :=
  value.scalar?.map Scalar.text

def choice? {α : Type} (ofName? : String → Option α) (value : Value) : Option α :=
  value.scalar?.bind (Scalar.choice? ofName?)

/-- A whole number that may have a minus sign only if there are negative ones in the range. -/
def int? (least greatest : Int) (value : Value) : Option Int := do
  let s ← value.scalar?
  guard s.maybeNumber
  let n ← wholeNumber? (least < 0) s.text
  guard (least ≤ n && n ≤ greatest)
  return n

def items? (value : Value) : Option (List Value) :=
  match value.target with
  | .list items => some (items.map (Value.mk value.document))
  | .scalar s => if s.isEmpty then some [] else none
  | _ => none

/-- A list whose items are all readable. -/
def list? {α : Type} (item? : Value → Option α) (value : Value) : Option (List α) :=
  value.items?.bind (List.mapM item?)

/-- The members of a map whose keys are texts. -/
def members? (value : Value) : Option Members :=
  match value.target with
  | .map members =>
    members.mapM fun member ↦
      ((Value.mk value.document member.1).text?).map fun key ↦
        (key, Value.mk value.document member.2)
  | .scalar s => if s.isEmpty then some [] else none
  | _ => none

/-- The value that null stands for, or a readable one. -/
def nullable? {α : Type} (read? : Value → Option α) (value : Value) : Option (Option α) :=
  match value.target with
  | .scalar s => s.isNull?.bind fun isNull ↦ if isNull then some none else (read? value).map some
  | _ => (read? value).map some

end Value

end FieldTags.Yaml
