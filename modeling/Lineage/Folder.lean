import Lineage.Text.Code

/-!
# Folders

A command sees the files around it as a `Folder`: texts under their paths. Paths that differ
only in `.` and in repeated slashes are the same. Every name on a path is looked up in the folder
before it, and `..` leads to the folder that this one is in. Nothing needs to be known of what lies
outside of the folder of the command.
-/

namespace Lineage

/-! ### Paths -/

/-- A path: the names on it, and whether it starts at the root. -/
structure Path where
  isAbsolute : Bool
  names : List String
  deriving DecidableEq, Repr

/-- A place that a path leads to. -/
structure Location where
  /-- The number of folders to leave first, unless the names start at the root. -/
  above : Option Nat
  names : List String
  deriving DecidableEq, Repr

namespace Location

/-- The place that a name leads to from another place. -/
def next (l : Location) (name : String) : Location :=
  if name ≠ ".." then { l with names := l.names ++ [name] }
  else if l.names.isEmpty then { l with above := l.above.map (· + 1) }
  else { l with names := l.names.dropLast }

/-- Whether a place is within another one. -/
def isWithin (l m : Location) : Bool :=
  l.above = m.above && m.names.isPrefixOf l.names && m.names.length < l.names.length

/-- The text of a place, if it is in the folder of the command. -/
def inside? (l : Location) : Option String :=
  if l.above = some 0 then some (String.intercalate "/" l.names) else none

end Location

namespace Path

/-- The path that a text writes. -/
def ofString (s : String) : Path :=
  { isAbsolute := s.toList.head? = some '/'
    names := ((s.toList.splitOn '/').map String.ofList).filter fun n => n ≠ "" ∧ n ≠ "." }

/-- The text of a path. -/
def text (p : Path) : String :=
  let names := String.intercalate "/" p.names
  if p.isAbsolute then "/" ++ names else if p.names.isEmpty then "." else names

/-- The place that a path starts at. -/
def start (p : Path) : Location :=
  { above := if p.isAbsolute then none else some 0, names := [] }

/-- The place that a path leads to. -/
def location (p : Path) : Location :=
  p.names.foldl Location.next p.start

/-- The paths to the folders on the way. -/
def ancestors (p : Path) : List Path :=
  (List.range p.names.length).map fun n => { p with names := p.names.take n }

end Path

/-! ### Files -/

/-- The files that a command sees. -/
structure Folder where
  /-- Texts under their paths. -/
  files : List (String × String) := []
  /-- Folders that may have no files in them. -/
  folders : List String := []
  deriving DecidableEq, Repr, Inhabited

namespace Folder

/-- What there is under a path. -/
inductive Content where
  | text (content : String)
  | folder
  | nothing
  deriving DecidableEq, Repr

/-- Why a path does not lead to a file. -/
inductive Obstacle where
  /-- A folder on it is missing. -/
  | noFolder
  /-- It leads to a folder. -/
  | isFolder
  /-- It runs through a file. -/
  | throughFile
  /-- It is too long, or a name on it is. -/
  | longName
  deriving DecidableEq, Repr

/-- The most bytes that a name may take. -/
def nameLimit : Nat := 255

/-- The most bytes that a path may take. -/
def pathLimit : Nat := 4095

/-- The file at a place. -/
def file? (f : Folder) (l : Location) : Option String :=
  (f.files.find? fun file => (Path.ofString file.1).location = l).map Prod.snd

/-- Whether there is a folder at a place. -/
def isFolder (f : Folder) (l : Location) : Bool :=
  l.names.isEmpty || f.folders.any (fun path => (Path.ofString path).location = l) ||
    f.files.any fun file => (Path.ofString file.1).location.isWithin l

/-- The place that some names lead to from a place. -/
def reach (f : Folder) (l : Location) : List String → Except Obstacle Location
  | [] => .ok l
  | name :: names =>
    if Text.byteSize name > nameLimit then .error .longName
    else if names.isEmpty || f.isFolder (l.next name) then f.reach (l.next name) names
    else if (f.file? (l.next name)).isSome then .error .throughFile
    else .error .noFolder

/-- The place that a path leads to. -/
def locate (f : Folder) (p : Path) : Except Obstacle Location :=
  if Text.byteSize p.text > pathLimit then .error .longName else f.reach p.start p.names

/-- What there is under a path. -/
def content (f : Folder) (s : String) : Content :=
  match f.locate (Path.ofString s) with
  | .error _ => .nothing
  | .ok l =>
    if f.isFolder l then .folder
    else (f.file? l).elim .nothing .text

/-- What stands in the way of writing a file. -/
def obstacle? (f : Folder) (p : Path) : Option Obstacle :=
  match f.locate p with
  | .error obstacle => some obstacle
  | .ok l => if f.isFolder l then some .isFolder else none

end Folder

end Lineage
