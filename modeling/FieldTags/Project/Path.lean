import FieldTags.Text.Split

/-!
# Paths

A path is a text of segments between slashes. Empty segments and single dots add nothing to what a
path leads to. Paths are ordered by their other segments, one after the other, so that the slash comes
before every character; a single dot at the start of a path counts there.
-/

namespace FieldTags.Path

def segments (path : String) : List String :=
  Text.split '/' path

/-- The segments of a path that add something to it. -/
def components (path : String) : List String :=
  (segments path).filter fun s ↦ s ≠ "" && s ≠ "."

/-- Whether a path does not start in the working directory. -/
def isAbsolute (path : String) : Bool :=
  path.toList.head? = some '/'

def join (directory name : String) : String :=
  if isAbsolute name || directory = "" then name
  else if directory.toList.getLast? = some '/' then directory ++ name
  else directory ++ "/" ++ name

def parent (path : String) : String :=
  "/".intercalate (segments path).dropLast

def fileName (path : String) : String :=
  (components path).getLast?.getD ""

/-- A name without its extension, which a dot at its start does not begin. -/
def stem (name : String) : String :=
  match (name.toList.reverse.dropWhile (· ≠ '.')).drop 1 with
  | [] => name
  | before => String.ofList before.reverse

/-- A name without `ending`, if it ends so. -/
def dropEnding? (ending name : String) : Option String :=
  if ending.toList.isSuffixOf name.toList then
    some (String.ofList (name.toList.take (name.length - ending.length)))
  else none

/--
What paths are compared by. A dot at the start counts, before everything else, and two dots come before
all names.
-/
def sortKey (path : String) : List String :=
  let key := (components path).map fun s ↦ if s = ".." then "\x00" else s
  if (segments path).head? = some "." then "" :: key else key

/-- Whether a path comes before another or is compared as equal. -/
def isOrdered (a b : String) : Bool :=
  (List.compareLex compare (sortKey a) (sortKey b)).isLE

/-- Whether a path is the working directory itself, as it is written. -/
def isHere (path : String) : Bool :=
  path ≠ "" && !isAbsolute path && components path = []

end FieldTags.Path
