import AccessPolicy.Disk.Path

/-! Files in folders. -/

namespace AccessPolicy

/-- The names that lead from the root down to a file or a folder. -/
abbrev Location := List String

/-- Files with their bytes, folders, and the folder in which relative paths start. -/
structure Disk where
  start : Location
  folders : List Location
  files : List (Location × List UInt8)
  deriving Repr, DecidableEq

namespace Disk

/-- Whether a folder stands at a location. -/
def hasFolder (disk : Disk) (location : Location) : Bool :=
  -- Whatever stands somewhere stands in folders all the way down from the root.
  location.isPrefixOf disk.start
    || disk.folders.any location.isPrefixOf
    || disk.files.any fun file => location.isPrefixOf file.1 && location != file.1

/-- The location that a name leads to from a folder. -/
def step (disk : Disk) (location : Location) (name : String) : Option Location :=
  -- Only a folder can be left, upwards or downwards, and above the root is the root.
  if !disk.hasFolder location then none
  else if name = ".." then some location.dropLast
  else some (location ++ [name])

/-- The location that a path leads to, whether or not something stands there. -/
def locate? (disk : Disk) (path : Path) : Option Location :=
  -- Relative paths start in the current folder.
  path.names.foldlM disk.step (if path.slashes = 0 then disk.start else [])

/-- Whether a path leads to a folder. -/
def isFolder (disk : Disk) (path : Path) : Bool :=
  -- A path may lead nowhere.
  (disk.locate? path).any disk.hasFolder

/-- The bytes of the file at a location. -/
def content? (disk : Disk) (location : Location) : Option (List UInt8) :=
  -- A location has at most one file.
  disk.files.lookup location

/-- The bytes of the file that a path leads to. -/
def bytes? (disk : Disk) (path : Path) : Option (List UInt8) :=
  -- Folders have none.
  (disk.locate? path).bind disk.content?

/-- Puts bytes behind those of a file, which is created where it is missing. -/
def appendIn (location : Location) (bytes : List UInt8) :
    List (Location × List UInt8) → List (Location × List UInt8)
  -- The files keep their order.
  | [] => [(location, bytes)]
  | (other, old) :: later =>
    if other = location then (other, old ++ bytes) :: later
    else (other, old) :: appendIn location bytes later

/-- Puts bytes behind those of the file at a location. -/
def append (disk : Disk) (location : Location) (bytes : List UInt8) : Disk :=
  -- No other file changes.
  { disk with files := appendIn location bytes disk.files }

/-- Creates the folder that a name leads to, unless it is there. -/
def enter? (place : Disk × Location) (name : String) : Option (Disk × Location) :=
  -- A file cannot be entered.
  match place.1.step place.2 name with
  | none => none
  | some location =>
    if place.1.hasFolder location then some (place.1, location)
    else if (place.1.content? location).isSome then none
    else some ({ place.1 with folders := place.1.folders ++ [location] }, location)

/-- Creates all folders on a path, and gives the location of the last one. -/
def createFolders? (disk : Disk) (path : Path) : Option (Disk × Location) :=
  -- Folders that are there already are entered.
  path.names.foldlM enter? (disk, if path.slashes = 0 then disk.start else [])

/-- Creates the file that a path leads to, and the folders on the way, unless they are there. -/
def createFile? (disk : Disk) (path : Path) : Option (Disk × Location) :=
  -- A folder cannot become a file.
  match disk.createFolders? path.parent with
  | none => none
  | some (disk, _) =>
    match disk.locate? path with
    | none => none
    | some location =>
      if disk.hasFolder location then none else some (disk.append location [], location)

end Disk

end AccessPolicy
