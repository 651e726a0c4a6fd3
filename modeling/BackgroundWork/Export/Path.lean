import BackgroundWork.Export.Domain
import BackgroundWork.Export.Format
import BackgroundWork.Numeric.Shortest

set_option autoImplicit false

/-!
Where exports are written: a directory per domain below the documents directory, and in it a file
named for the domain and the second of the export. Paths are Unicode text here, the documents
directory among them, although a system may know that one by bytes that are no text. What is put
below it is ASCII throughout.
-/

namespace BackgroundWork.Export

/-- A moment, as the second since the epoch and the nanoseconds in it. A leap second is the second
before it with nanoseconds from 10^9 on. -/
structure UnixTime where
  second : Int
  nanosecond : Nat
  deriving DecidableEq, Repr

/-- The second of a moment, as it is written in names of files. -/
def UnixTime.stamp (time : UnixTime) : String :=
  String.ofList (Numeric.intText time.second)

namespace Path

/-- A name below a directory. Nothing is put between the two if the directory is empty or ends in
a slash, and a name that starts with one stands for itself. -/
def join (directory name : String) : String :=
  if name.toList.head? = some '/' then name
  else
    match directory.toList.getLast? with
    | none => name
    | some '/' => directory ++ name
    | some _ => directory ++ "/" ++ name

/-- The directory for a domain's exports. -/
def directory (documents : String) (domain : Domain) : String :=
  join documents domain.directoryName

/-- The name of an exported file. -/
def fileName (domain : Domain) (format : Format) (stamp : String) : String :=
  s!"{domain.fileStem}_selected_{stamp}.{format.fileExtension}"

/-- The path of an exported file. -/
def file (documents : String) (domain : Domain) (format : Format) (stamp : String) : String :=
  join (directory documents domain) (fileName domain format stamp)

/-- The path of a file that is exported at a moment. -/
def fileAt (documents : String) (domain : Domain) (format : Format) (time : UnixTime) : String :=
  file documents domain format time.stamp

end Path
end BackgroundWork.Export
