import FieldTags.Project.Location
import FieldTags.Project.Path
import FieldTags.Project.Pattern

/-!
# File patterns

A file pattern is a path whose segments are patterns for names. A path that matches is written as the
pattern leads to it. Only a pattern that starts with a dot can stand for the directory itself and the one
around it. The paths of several patterns are listed pattern by pattern, each in order, and none twice.
-/

namespace FieldTags.Glob

/-- A segment of a file pattern. -/
inductive Segment where
  | literal (name : String)
  | names (parts : List PatternPart)
  /-- Any directories. -/
  | anyDepth
  deriving DecidableEq

namespace Segment

def read (text : String) : Except PatternError Segment :=
  (PatternPart.read text).map fun parts ↦
    if parts = [.anyDepth] then .anyDepth
    else
      match PatternPart.literal? parts with
      | some name => .literal name
      | none => .names parts

def accepts (segment : Segment) (name : String) : Bool :=
  match segment with
  | .literal text => text = name
  | .names parts => PatternPart.matchesName parts name.toList
  | .anyDepth => false

/-- The dots that match a segment, of which two are preferred to one. -/
def dots (segment : Segment) : List String :=
  match segment with
  | .names (.char '.' :: _) => ["..", "."].filter segment.accepts
  | _ => []

/-- Segments in which any directories do not follow each other. -/
def collapse : List Segment → List Segment
  | .anyDepth :: rest =>
    match collapse rest with
    | .anyDepth :: more => .anyDepth :: more
    | more => .anyDepth :: more
  | segment :: rest => segment :: collapse rest
  | [] => []

end Segment

/-- A file or directory that a pattern has led to. -/
structure Place where
  path : String
  location : Location

namespace Place

def start : Place := ⟨".", .top⟩

/-- The directory around all others. -/
def root : Place := ⟨"/", .outside⟩

/-- The names of what a directory holds; nothing is known of what is outside. -/
def children (files : List (List String)) (place : Place) : List String :=
  match place.location with
  | .outside => []
  | .inside names =>
    (files.filterMap fun file ↦
      if names.isPrefixOf file then file[names.length]? else none).eraseDups

def isDirectory (files : List (List String)) (place : Place) : Bool :=
  place.location = .outside || place.location = .top || place.children files ≠ []

/-- The path of a segment in a place as it is written, where the working directory is left out. -/
def pathOf (place : Place) (segment : String) : String :=
  if Path.isHere place.path then segment else Path.join place.path segment

def child (place : Place) (name : String) : Place :=
  ⟨place.pathOf name, place.location.child name⟩

/-- The place that dots lead to from a directory, with its path. -/
def follow (place : Place) (dots path : String) : Place :=
  ⟨path, if dots = ".." then place.location.parent else place.location⟩

/-- The place that a name leads to. Only a directory holds the empty name, which is itself. -/
def literal? (files : List (List String)) (place : Place) (name : String) : Option Place :=
  if name = "." || name = ".." then
    if place.isDirectory files then some (place.follow name (place.pathOf name)) else none
  else if name = "" then
    if place.isDirectory files && !Path.isHere place.path then
      some ⟨place.pathOf name, place.location⟩
    else none
  else if (place.children files).contains name then some (place.child name)
  else none

/-- What is below a directory, up to a depth. -/
def below (files : List (List String)) : Nat → Place → List Place
  | 0, _ => []
  | depth + 1, place =>
    (place.children files).flatMap fun name ↦
      place.child name :: below files depth (place.child name)

def descendants (files : List (List String)) (place : Place) : List Place :=
  below files ((files.map List.length).foldl max 0) place

/-- The places that segments lead to. What any directories hold is only known by its names. -/
def expand (files : List (List String)) (place : Place) : List Segment → List Place
  | [] => [place]
  | .literal name :: rest =>
    match place.literal? files name with
    | some next => next.expand files rest
    | none => []
  | .names parts :: rest =>
    let segment := Segment.names parts
    let children := ((place.children files).filter segment.accepts).map place.child
    let dots := if place.isDirectory files then segment.dots else []
    let special := dots.map fun dots ↦ place.follow dots (Path.join place.path dots)
    (special ++ children).flatMap fun next ↦ next.expand files rest
  | [.anyDepth] => (place.descendants files).filter (·.isDirectory files)
  | .anyDepth :: segment :: rest =>
    ((place.descendants files).filter fun next ↦ segment.accepts (Path.fileName next.path)).flatMap
      fun next ↦ next.expand files rest

end Place

/-- The segments of a file pattern. A slash at its start or end separates it from nothing. -/
def segments (pattern : String) : Except PatternError (List Segment) := do
  let _ ← PatternPart.read pattern
  let texts := if Path.isAbsolute pattern then (Path.segments pattern).drop 1
    else Path.segments pattern
  let texts := if texts.getLast? = some "" then texts.dropLast else texts
  return Segment.collapse (← texts.mapM Segment.read)

/-- The paths that match a file pattern; a slash at its end asks for directories. -/
def matching (files : List (List String)) (pattern : String) : Except PatternError (List String) :=
  (segments pattern).map fun segments ↦
    let start := if Path.isAbsolute pattern then Place.root else Place.start
    let places := start.expand files segments
    let wanted :=
      if pattern.toList.getLast? = some '/' then places.filter (·.isDirectory files) else places
    wanted.map Place.path

/-- The paths with others behind them in order, of which those that are compared as equal are left out. -/
def appendNew (paths : List String) (more : List String) : List String :=
  (more.mergeSort Path.isOrdered).foldl (fun paths path ↦
    if paths.any fun other ↦ Path.sortKey other = Path.sortKey path then paths
    else paths ++ [path]) paths

/-- A file pattern that cannot be read. -/
structure InvalidPattern where
  pattern : String
  error : PatternError
  deriving DecidableEq

/-- The file pattern in a directory, where both slashes separate segments. -/
def inDirectory (directory pattern : String) : String :=
  (Path.join directory pattern).map fun c ↦ if c = '\\' then '/' else c

/-- The paths that match one of several patterns in a directory. -/
def sources (files : List (List String)) (directory : String) (patterns : List String) :
    Except InvalidPattern (List String) :=
  patterns.foldlM (fun paths pattern ↦
    match matching files (inDirectory directory pattern) with
    | .ok more => .ok (appendNew paths more)
    | .error e => .error ⟨pattern, e⟩) []

end FieldTags.Glob
