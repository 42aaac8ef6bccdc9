import SchoolWeek.Text.Search
import SchoolWeek.Text.Blank

/-! The files that the program reads and writes, and a plain list of files that can
stand in for those of the machine. -/
namespace SchoolWeek

/-- Why a path leads to no file that can be used. -/
inductive FileFault
  | missing
  | notDirectory
  | isDirectory
  | nameTooLong
  /-- The path has a zero byte in it, which no path has. -/
  | zeroByte
  | other (text : String)
  deriving DecidableEq, Repr

def FileFault.message : FileFault → String
  | .missing => "No such file or directory (os error 2)"
  | .notDirectory => "Not a directory (os error 20)"
  | .isDirectory => "Is a directory (os error 21)"
  | .nameTooLong => "File name too long (os error 36)"
  | .zeroByte => "file name contained an unexpected NUL byte"
  | .other text => text

/-- Why nothing can be read under a path: it cannot be opened, or it is no file. -/
inductive ReadFailure
  | opening (fault : FileFault)
  | reading (fault : FileFault)
  deriving DecidableEq, Repr

/-- Access to files by their paths. What fails says why. -/
class Files (m : Type → Type) where
  read : String → m (Except ReadFailure (List UInt8))
  write : String → List UInt8 → m (Except FileFault Unit)

namespace Path

/-- The longest name of a file, in bytes. -/
def longestName : Nat := 255

/-- A path of this many bytes is too long. -/
def sizeLimit : Nat := 4096

/-- The parts between slashes, the empty ones included. -/
def parts (path : String) : List String :=
  (Text.split (· == '/') path.toList).map String.ofList

def isAbsolute (path : String) : Bool := path.toList.head? = some '/'

/-- Why the path is no path, whatever files there are. -/
def fault? (path : String) : Option FileFault :=
  if path.toList.contains '\x00' then some .zeroByte
  else if path.isEmpty then some .missing
  else if sizeLimit ≤ path.utf8ByteSize then some .nameTooLong
  else none

end Path

/-- Files by their absolute paths, and the directory in which the program runs. -/
structure Disk where
  files : List (List String × List UInt8)
  home : List String

namespace Disk

/-- The directory in which the program runs, if nothing else is said. -/
def defaultHome : List String := ["tmp", "home"]

/-- Files by their paths from the directory in which the program runs. -/
def ofFiles (files : List (String × List UInt8)) : Disk where
  files := files.map fun (path, content) =>
    (defaultHome ++ (Path.parts path).filter fun part => !part.isEmpty && part != ".", content)
  home := defaultHome

/-- The file that takes everything and holds nothing. -/
def nullFile : List String := ["dev", "null"]

/-- Directories that are there without any file. -/
def bareDirectories : List (List String) :=
  [["dev"], ["etc"], ["home"], ["tmp"], ["usr"], ["var"]]

def find? (disk : Disk) (path : List String) : Option (List UInt8) :=
  if path = nullFile then some [] else disk.files.lookup path

def isFile (disk : Disk) (path : List String) : Bool := (disk.find? path).isSome

/-- Whatever leads to a file or to the place where the program runs is a directory. -/
def isDirectory (disk : Disk) (path : List String) : Bool :=
  path.isPrefixOf disk.home || bareDirectories.contains path ||
    disk.files.any fun (file, _) => path.isPrefixOf file && path != file

/-- One part further on from a directory. -/
def enter (disk : Disk) (directory : List String) (part : String) :
    Except FileFault (List String) :=
  if part.isEmpty || part = "." then .ok directory
  else if part = ".." then .ok directory.dropLast
  else if Path.longestName < part.utf8ByteSize then .error .nameTooLong
  else
    let place := directory ++ [part]
    if disk.isFile place || disk.isDirectory place then .ok place else .error .missing

/-- Follows the parts of a path. All but the last must lead to directories. -/
def follow (disk : Disk) (place : List String) : List String → Except FileFault (List String)
  | [] => .ok place
  | part :: parts =>
    if disk.isFile place then .error .notDirectory
    else do disk.follow (← disk.enter place part) parts

/-- Where a path begins. -/
def origin (disk : Disk) (path : String) : List String :=
  if Path.isAbsolute path then [] else disk.home

def locate (disk : Disk) (path : String) : Except FileFault (List String) :=
  match Path.fault? path with
  | some fault => .error fault
  | none => disk.follow (disk.origin path) (Path.parts path)

def read (path : String) (disk : Disk) : Except ReadFailure (List UInt8) :=
  match disk.locate path with
  | .error fault => .error (.opening fault)
  | .ok place =>
    match disk.find? place with
    | some content => .ok content
    | none => .error (.reading .isDirectory)

/-- Where a file can be written. The last part must be a name without a slash behind it,
and what stands before it must lead to a directory. -/
def locateForWriting (disk : Disk) (path : String) : Except FileFault (List String) := do
  if let some fault := Path.fault? path then throw fault
  let named := ((Path.parts path).reverse.dropWhile (·.isEmpty)).reverse
  let directory ← disk.follow (disk.origin path) named.dropLast
  if disk.isFile directory then throw .notDirectory
  match named.getLast? with
  | none => throw .isDirectory
  | some name =>
    if name = "." || name = ".." || path.toList.getLast? = some '/' then throw .isDirectory
    else if Path.longestName < name.utf8ByteSize then throw .nameTooLong
    else if disk.isDirectory (directory ++ [name]) then throw .isDirectory
    else return directory ++ [name]

/-- The list with the content of one file exchanged, or with a new file at its end. -/
def put (path : List String) (content : List UInt8) :
    List (List String × List UInt8) → List (List String × List UInt8)
  | [] => [(path, content)]
  | (file, old) :: files =>
    if file = path then (file, content) :: files else (file, old) :: put path content files

def write (path : String) (content : List UInt8) (disk : Disk) : Except FileFault Unit × Disk :=
  match disk.locateForWriting path with
  | .error fault => (.error fault, disk)
  | .ok place => (.ok (), { disk with files := put place content disk.files })

instance : Files (StateM Disk) where
  read path := fun disk => (disk.read path, disk)
  write path content := fun disk => disk.write path content

end Disk
end SchoolWeek
