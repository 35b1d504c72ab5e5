import FieldTags.OrderedMap
import FieldTags.Project.Location
import FieldTags.Project.Path

/-!
# Workspaces

A workspace is what the commands see of the files around them: what a path leads to, the files below
the working directory, and reading and writing. A tree of files that is held in memory is a workspace.
-/

namespace FieldTags

/-- Why a file cannot be read or written. -/
inductive FileError where
  | missing
  /-- A file stands in the path where a directory should. -/
  | notDirectory
  | isDirectory
  | nameTooLong
  | other (reason : String)
  deriving DecidableEq

def FileError.message : FileError → String
  | .missing => "No such file or directory (os error 2)"
  | .notDirectory => "Not a directory (os error 20)"
  | .isDirectory => "Is a directory (os error 21)"
  | .nameTooLong => "File name too long (os error 36)"
  | .other reason => reason

/-- What a path leads to. -/
inductive FileKind where
  | file
  | directory
  deriving DecidableEq

/-- What the commands see of the files around them. -/
structure Workspace (m : Type → Type) where
  /-- What a path leads to. -/
  kind : String → m (Option FileKind)
  /-- The files below the working directory, by the segments of their paths. -/
  files : m (List (List String))
  read : String → m (Except FileError String)
  write : String → String → m (Except FileError Unit)

/-- Files that are held in memory, by their paths from the working directory. -/
structure FileTree where
  /-- The texts of the files, by paths without segments that add nothing. -/
  texts : OrderedMap String

namespace FileTree

def empty : FileTree := ⟨.empty⟩

def pathOf (location : List String) : String :=
  "/".intercalate location

def insert (tree : FileTree) (path text : String) : FileTree :=
  ⟨tree.texts.insert (pathOf (Path.components path)) text⟩

def files (tree : FileTree) : List (List String) :=
  tree.texts.keys.map Path.segments

def isFile (tree : FileTree) (location : List String) : Bool :=
  tree.texts.contains (pathOf location)

/-- Whether there is a directory at a place: the working directory, or one that holds a file. -/
def isDirectory (tree : FileTree) (location : List String) : Bool :=
  location = [] ||
    tree.files.any fun file ↦ location.isPrefixOf file && location.length < file.length

/-- Whether a name has more bytes than the names of files may have. -/
def isLongName (name : String) : Bool :=
  255 < name.utf8ByteSize

/-- Whether a path has more bytes than paths may have. -/
def isLongPath (path : String) : Bool :=
  4096 ≤ path.utf8ByteSize

/-- The place that segments lead to from a directory. Nothing but directories is known outside. -/
def walk (tree : FileTree) (directory : Location) : List String → Except FileError Location
  | [] => .ok directory
  | segment :: rest =>
    if segment = "" || segment = "." then walk tree directory rest
    else if segment = ".." then walk tree directory.parent rest
    else if isLongName segment then .error .nameTooLong
    else
      match directory with
      | .outside => .error .missing
      | .inside names =>
        let next := names ++ [segment]
        if tree.isFile next then if rest = [] then .ok (.inside next) else .error .notDirectory
        else if tree.isDirectory next then walk tree (.inside next) rest
        else .error .missing

def locate (tree : FileTree) (path : String) : Except FileError Location :=
  if path = "" then .error .missing
  else if isLongPath path then .error .nameTooLong
  else tree.walk (if Path.isAbsolute path then .outside else .top) (Path.segments path)

/-- The text of the file at a place, unless there is a directory. -/
def textAt? (tree : FileTree) : Location → Option String
  | .inside names => tree.texts.find? (pathOf names)
  | .outside => none

def kind (tree : FileTree) (path : String) : Option FileKind :=
  match tree.locate path with
  | .ok place => some (if (tree.textAt? place).isSome then .file else .directory)
  | .error _ => none

def read (tree : FileTree) (path : String) : Except FileError String :=
  match tree.locate path with
  | .error e => .error e
  | .ok place =>
    match tree.textAt? place with
    | some text => .ok text
    | none => .error .isDirectory

/-- The tree with a new text for a file in a directory, of which the tree holds nothing if it is outside. -/
def writeIn (tree : FileTree) (directory : Location) (name text : String) :
    Except FileError FileTree :=
  match directory with
  | .outside => .ok tree
  | .inside names =>
    let next := names ++ [name]
    if tree.isDirectory next then .error .isDirectory
    else .ok ⟨tree.texts.insert (pathOf next) text⟩

/-- The tree with a new text for a file in a directory that is there. -/
def write (tree : FileTree) (path text : String) : Except FileError FileTree :=
  if path = "" then .error .missing
  else if isLongPath path then .error .nameTooLong
  else
    let segments := Path.segments path
    let named := (segments.reverse.dropWhile (· = "")).reverse
    let name := named.getLast?.getD "."
    match tree.walk (if Path.isAbsolute path then .outside else .top) named.dropLast with
    | .error e => .error e
    | .ok directory =>
      if (tree.textAt? directory).isSome then .error .notDirectory
      else if name = "." || name = ".." || segments.getLast? = some "" then .error .isDirectory
      else if isLongName name then .error .nameTooLong
      else tree.writeIn directory name text

def workspace : Workspace (StateM FileTree) where
  kind path := return (← get).kind path
  files := return (← get).files
  read path := return (← get).read path
  write path text := do
    match (← get).write path text with
    | .ok tree => do
      set tree
      return .ok ()
    | .error e => return .error e

end FileTree

end FieldTags
