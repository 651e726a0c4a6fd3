set_option autoImplicit false

/-!
A disk of directories and plain files. A path is followed name by name from the root: empty names
and single dots stay where they are, two dots go one directory up, and every other name has to
be there. A directory is created together with all that are missing on the way to it; what was
created before a fault stays.
-/

namespace BackgroundWork.Simulation

/-- A place on the disk: the names that lead to it from the root. -/
abbrev Place := List String

/-- The places that are plain files, and those below the root that are directories. -/
structure Disk where
  files : List Place
  directories : List Place

namespace Disk

/-- Why the disk refuses a path. -/
inductive Fault where
  | missing
  /-- Something stands at the place already. -/
  | occupied
  /-- A plain file stands where a directory is due. -/
  | notDirectory
  | nameTooLong
  /-- Paths cannot hold a zero. -/
  | zero
  deriving DecidableEq, Repr

/-- The wording of a fault. -/
def Fault.message : Fault → String
  | .missing => "No such file or directory (os error 2)"
  | .occupied => "File exists (os error 17)"
  | .notDirectory => "Not a directory (os error 20)"
  | .nameTooLong => "File name too long (os error 36)"
  | .zero => "file name contained an unexpected NUL byte"

/-- The greatest number of bytes in a name. -/
def longestName : Nat := 255

/-- The greatest number of bytes in a path. -/
def longestPath : Nat := 4095

/-- An empty disk. -/
def new : Disk := ⟨[], []⟩

/-- Whether there is a directory at a place; there is one at the root. -/
def hasDirectory (disk : Disk) (place : Place) : Bool :=
  place.isEmpty || disk.directories.contains place

/-- Whether anything stands at a place. -/
def has (disk : Disk) (place : Place) : Bool :=
  disk.hasDirectory place || disk.files.contains place

/-- The names of a path, without the empty ones. -/
def names (path : String) : Except Fault (List String) :=
  if path.toList.contains (Char.ofNat 0) then .error .zero
  else if longestPath < path.utf8ByteSize then .error .nameTooLong
  else .ok ((path.splitOn "/").filter fun name => name != "")

/-- The place to which names lead from another place. -/
def walk (disk : Disk) (place : Place) : List String → Except Fault Place
  | [] => .ok place
  | name :: rest =>
    if !disk.hasDirectory place then .error .notDirectory
    else if name = "." then walk disk place rest
    else if name = ".." then walk disk place.dropLast rest
    else if longestName < name.utf8ByteSize then .error .nameTooLong
    else if disk.has (place ++ [name]) then walk disk (place ++ [name]) rest
    else .error .missing

/-- Whether names lead to a directory. -/
def leadsToDirectory (disk : Disk) (path : List String) : Bool :=
  match disk.walk [] path with
  | .ok place => disk.hasDirectory place
  | .error _ => false

/-- The free place that a name has in the directory to which other names lead. -/
def freePlace (disk : Disk) (above : List String) (name : String) : Except Fault Place :=
  match disk.walk [] above with
  | .error fault => .error fault
  | .ok place =>
    if !disk.hasDirectory place then .error .notDirectory
    else if name = "." || name = ".." then .error .occupied
    else if longestName < name.utf8ByteSize then .error .nameTooLong
    else if disk.has (place ++ [name]) then .error .occupied
    else .ok (place ++ [name])

/-- Creates one directory; one that is there already will do. -/
def createOne (disk : Disk) (above : List String) (name : String) : Except Fault Unit × Disk :=
  match disk.freePlace above name with
  | .ok place => (.ok (), { disk with directories := place :: disk.directories })
  | .error fault =>
    if fault = .occupied && disk.leadsToDirectory (above ++ [name]) then (.ok (), disk)
    else (.error fault, disk)

/-- Creates the directory to which names lead, which are given from the last one to the first.
What is above it is created only if it is missing. -/
def createUpwards (disk : Disk) : List String → Except Fault Unit × Disk
  | [] => (.ok (), disk)
  | name :: above =>
    if name = "." then createUpwards disk above
    else
      match disk.createOne above.reverse name with
      | (.error .missing, _) =>
        match createUpwards disk above with
        | (.ok (), disk) => disk.createOne above.reverse name
        | refused => refused
      | result => result

/-- Creates a directory with all that lead to it. -/
def create (disk : Disk) (path : String) : Except Fault Unit × Disk :=
  match names path with
  | .error fault => (.error fault, disk)
  | .ok names => disk.createUpwards names.reverse

/-- Puts a plain file at a path and creates the directories that lead to it. What stands there
already stays. -/
def block (disk : Disk) (path : String) : Disk :=
  match names path with
  | .error _ => disk
  | .ok names =>
    match names.reverse with
    | [] => disk
    | name :: above =>
      let disk := (disk.createUpwards above).2
      match disk.freePlace above.reverse name with
      | .ok place => { disk with files := place :: disk.files }
      | .error _ => disk

/-- Whether a path leads to a directory. -/
def isDirectory (disk : Disk) (path : String) : Bool :=
  match names path with
  | .ok names => disk.leadsToDirectory names
  | .error _ => false

end Disk
end BackgroundWork.Simulation
