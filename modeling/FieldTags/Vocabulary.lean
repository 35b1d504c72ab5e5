import FieldTags.Json.Record

/-!
# Closed vocabularies

The words that some attributes choose from, each with its name in tags and in JSON. Names are
matched exactly, except that the methods of requests may be written in any case.
-/

namespace FieldTags

/-- How the items of a related value are shown. -/
inductive RelationMode where
  | flat
  | tags
  | avatarGroup
  | count
  | link
  deriving DecidableEq

namespace RelationMode

def all : List RelationMode := [.flat, .tags, .avatarGroup, .count, .link]

def name : RelationMode → String
  | .flat => "flat"
  | .tags => "tags"
  | .avatarGroup => "avatar-group"
  | .count => "count"
  | .link => "link"

def ofName? (s : String) : Option RelationMode :=
  all.find? (·.name = s)

end RelationMode

/-- How a search field compares. -/
inductive SearchOperator where
  | eq
  | ne
  | like
  | notLike
  | gt
  | gte
  | lt
  | lte
  | range
  | oneOf
  | isNull
  | isNotNull
  deriving DecidableEq

namespace SearchOperator

def all : List SearchOperator :=
  [.eq, .ne, .like, .notLike, .gt, .gte, .lt, .lte, .range, .oneOf, .isNull, .isNotNull]

def name : SearchOperator → String
  | .eq => "eq"
  | .ne => "ne"
  | .like => "like"
  | .notLike => "notlike"
  | .gt => "gt"
  | .gte => "gte"
  | .lt => "lt"
  | .lte => "lte"
  | .range => "range"
  | .oneOf => "in"
  | .isNull => "isnull"
  | .isNotNull => "isnotnull"

def ofName? (s : String) : Option SearchOperator :=
  all.find? (·.name = s)

end SearchOperator

/-- The method of a request. -/
inductive RequestMethod where
  | get
  | post
  deriving DecidableEq

namespace RequestMethod

def all : List RequestMethod := [.get, .post]

def name : RequestMethod → String
  | .get => "GET"
  | .post => "POST"

def ofName? (s : String) : Option RequestMethod :=
  all.find? (·.name = s)

/-- The method with a name in any case of its letters. -/
def read (s : String) : Option RequestMethod :=
  ofName? s.toUpper

end RequestMethod

/-- How the text of a column is aligned. -/
inductive Alignment where
  | left
  | center
  | right
  deriving DecidableEq

namespace Alignment

def all : List Alignment := [.left, .center, .right]

def name : Alignment → String
  | .left => "left"
  | .center => "center"
  | .right => "right"

def ofName? (s : String) : Option Alignment :=
  all.find? (·.name = s)

end Alignment

/-- Where a field can be shown. -/
inductive FormMode where
  | add
  | edit
  | detail
  | table
  | search
  deriving DecidableEq

namespace FormMode

def all : List FormMode := [.add, .edit, .detail, .table, .search]

def name : FormMode → String
  | .add => "add"
  | .edit => "edit"
  | .detail => "detail"
  | .table => "table"
  | .search => "search"

def ofName? (s : String) : Option FormMode :=
  all.find? (·.name = s)

end FormMode

/-- The actions on a row that every model knows. -/
inductive BuiltInButton where
  | view
  | edit
  | delete
  | add
  deriving DecidableEq

namespace BuiltInButton

/-- All built-in buttons, in display order. -/
def all : List BuiltInButton := [.view, .edit, .delete, .add]

def name : BuiltInButton → String
  | .view => "view"
  | .edit => "edit"
  | .delete => "delete"
  | .add => "add"

def ofName? (s : String) : Option BuiltInButton :=
  all.find? (·.name = s)

def label : BuiltInButton → String
  | .view => "查看"
  | .edit => "编辑"
  | .delete => "删除"
  | .add => "新增"

end BuiltInButton

end FieldTags
