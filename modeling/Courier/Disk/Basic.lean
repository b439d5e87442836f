import Courier.Disk.Path
import Courier.Text.Utf8

/-!
Disks: files and directories by their locations, and the operations on them by paths.  A path is
followed part by part from the root or from the working directory; on the way there have to be
directories.
-/

namespace Courier

open Text (Bytes)

/-- The names that lead to a place from the root. -/
abbrev Location := List String

/-- What is at a place. -/
inductive DiskEntry
  | file (content : Bytes)
  | directory
  deriving DecidableEq, Repr

/-- Files and directories other than the root, and the working directory. -/
structure Disk where
  entries : List (Location × DiskEntry)
  working : Location
  deriving Repr

namespace Disk

/-! ### Causes -/

/-- Why an operation fails. -/
inductive Cause
  | notFound
  | busy
  | alreadyExists
  | notDirectory
  | isDirectory
  | nameTooLong
  /-- a path with a zero character -/
  | zeroInPath
  /-- a file that is not text -/
  | notText
  deriving DecidableEq, Repr

def Cause.message : Cause → String
  | notFound => "No such file or directory (os error 2)"
  | busy => "Device or resource busy (os error 16)"
  | alreadyExists => "File exists (os error 17)"
  | notDirectory => "Not a directory (os error 20)"
  | isDirectory => "Is a directory (os error 21)"
  | nameTooLong => "File name too long (os error 36)"
  | zeroInPath => "file name contained an unexpected NUL byte"
  | notText => "stream did not contain valid UTF-8"

/-! ### Places -/

def empty : Disk := ⟨[(["work"], .directory)], ["work"]⟩

def entry? (d : Disk) (l : Location) : Option DiskEntry :=
  if l = [] then some .directory else d.entries.lookup l

def put (d : Disk) (l : Location) (e : DiskEntry) : Disk :=
  { d with entries := (l, e) :: d.entries.filter (·.1 != l) }

/-- The disk without what is at a location. -/
def erase (d : Disk) (l : Location) : Disk := { d with entries := d.entries.filter (·.1 != l) }

/-- The disk without what is at a location and below it. -/
def eraseTree (d : Disk) (l : Location) : Disk :=
  { d with entries := d.entries.filter fun p => !l.isPrefixOf p.1 }

/-- There is a directory at a location. -/
def enter (d : Disk) (l : Location) : Except Cause Unit :=
  match d.entry? l with
  | some .directory => .ok ()
  | some (.file _) => .error .notDirectory
  | none => .error .notFound

def maxName : Nat := 255

def maxPath : Nat := 4095

/-- A name that is not too long. -/
def checkName (name : String) : Except Cause Unit :=
  if name.utf8ByteSize ≤ maxName then .ok () else .error .nameTooLong

/-- The location to which parts lead from another. -/
def walk (d : Disk) : Location → List String → Except Cause Location
  | l, [] => .ok l
  | l, p :: ps => do
    d.enter l
    if p = "" ∨ p = "." then walk d l ps
    else if p = ".." then walk d l.dropLast ps
    else do
      checkName p
      walk d (l ++ [p]) ps

def checkPath (path : String) : Except Cause Unit :=
  if path.toList.contains (Char.ofNat 0) then .error .zeroInPath
  else if maxPath < path.utf8ByteSize then .error .nameTooLong
  else if path = "" then .error .notFound
  else .ok ()

def start (d : Disk) (path : String) : Location := if Path.isAbsolute path then [] else d.working

/-- The location to which a path leads; something need not be there. -/
def locate (d : Disk) (path : String) : Except Cause Location := do
  checkPath path
  d.walk (d.start path) (Path.parts path)

/-- A place in a directory: its last part, which may stand for the directory itself or the one
above, and whether slashes follow. -/
structure Place where
  directory : Location
  last : String
  slash : Bool
  deriving DecidableEq, Repr

/-- The location of a place whose last part is a name. -/
def Place.location (p : Place) : Location := p.directory ++ [p.last]

/-- The parts of a path without empty ones at the end. -/
def solidParts (path : String) : List String :=
  ((Path.parts path).reverse.dropWhile (· == "")).reverse

def place (d : Disk) (path : String) : Except Cause Place := do
  checkPath path
  let parts := solidParts path
  let l ← d.walk (d.start path) parts.dropLast
  d.enter l
  return ⟨l, parts.getLast?.getD "", (Path.parts path).getLast? == some ""⟩

/-! ### Reading -/

def read (d : Disk) (path : String) : Except Cause Bytes := do
  let l ← d.locate path
  match d.entry? l with
  | none => throw .notFound
  | some .directory => throw .isDirectory
  | some (.file content) => return content

def readText (d : Disk) (path : String) : Except Cause Bytes := do
  let content ← d.read path
  if (Text.Utf8.decode? content).isSome then return content else throw .notText

def isDirectory (d : Disk) (path : String) : Bool :=
  match d.locate path with
  | .ok l => d.entry? l == some .directory
  | .error _ => false

/-! ### Writing -/

/-- A file made or written anew. -/
def write (d : Disk) (path : String) (content : Bytes) : Except Cause Disk := do
  let p ← d.place path
  if p.slash ∨ ¬Path.isName p.last then throw .isDirectory
  checkName p.last
  if d.entry? p.location = some .directory then throw .isDirectory
  return d.put p.location (.file content)

/-- A file moved to another place, where it takes the place of a file. -/
def rename (d : Disk) (source target : String) : Except Cause Disk := do
  let s ← d.place source
  let t ← d.place target
  if ¬Path.isName s.last ∨ ¬Path.isName t.last then throw .busy
  checkName s.last
  checkName t.last
  match d.entry? s.location with
  | none => throw .notFound
  | some .directory => throw .isDirectory
  | some (.file content) =>
    if s.slash ∨ t.slash then throw .notDirectory
    if d.entry? t.location = some .directory then throw .isDirectory
    return (d.erase s.location).put t.location (.file content)

/-- A directory made in one that is there. -/
def createDirectory (d : Disk) (path : String) : Except Cause Disk := do
  let p ← d.place path
  if ¬Path.isName p.last then throw .alreadyExists
  checkName p.last
  if (d.entry? p.location).isSome then throw .alreadyExists
  return d.put p.location .directory

/-- A directory made, or found to be there. -/
def ensureDirectory (d : Disk) (path : String) : Except Cause Unit × Disk :=
  match d.createDirectory path with
  | .ok d => (.ok (), d)
  | .error c => if d.isDirectory path then (.ok (), d) else (.error c, d)

/-- The first of some paths, the others being those above it, made a directory.  Those that were
made stay, whatever comes of the rest. -/
def ensureAll : List String → Disk → Except Cause Unit × Disk
  | [], d => (.ok (), d)
  | path :: above, d =>
    match d.createDirectory path with
    | .ok d => (.ok (), d)
    | .error .notFound =>
      match ensureAll above d with
      | (.error c, d) => (.error c, d)
      | (.ok (), d) => d.ensureDirectory path
    | .error c => if d.isDirectory path then (.ok (), d) else (.error c, d)

/-- A directory made together with those above it. -/
def createDirectories (d : Disk) (path : String) : Except Cause Unit × Disk :=
  ensureAll (Path.ancestors (path.length + 1) path) d

/-! ### Removing and listing -/

/-- The disk without a file, or without a directory and all in it. -/
def remove (d : Disk) (path : String) : Except Cause Disk := do
  let p ← d.place path
  if ¬Path.isName p.last then throw .busy
  match d.entry? p.location with
  | none => throw .notFound
  | some (.file _) => if p.slash then throw .notDirectory else return d.erase p.location
  | some .directory => return d.eraseTree p.location

/-- What is below the working directory, by the names that lead there from it. -/
def listing (d : Disk) : List (Location × DiskEntry) :=
  d.entries.filterMap fun (l, e) =>
    if d.working.isPrefixOf l ∧ l ≠ d.working then some (l.drop d.working.length, e) else none

end Disk

end Courier
