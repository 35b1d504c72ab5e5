/-!
# Locations

A location is where a path leads to: names from the working directory on, or somewhere outside of it. Of
what is outside nothing is known but that there are directories around the working directory.
-/

namespace FieldTags

/-- A place among files. -/
inductive Location where
  /-- The place that names lead to from the working directory. -/
  | inside (names : List String)
  /-- A directory that does not belong to the working directory. -/
  | outside
  deriving DecidableEq

namespace Location

def top : Location := .inside []

def parent : Location → Location
  | .inside [] | .outside => .outside
  | .inside names => .inside names.dropLast

/-- The place of a name in a directory; nothing is known of what is outside. -/
def child (directory : Location) (name : String) : Location :=
  match directory with
  | .inside names => .inside (names ++ [name])
  | .outside => .outside

end Location

end FieldTags
