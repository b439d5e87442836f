import Courier.Disk.Basic

/-!
Files: the part of the real disk that a path leads through, and the changes to it that a program
made.
-/

namespace Courier.Cli.Files

/-- The locations that a path leads through, from a start; the last one is where it ends. -/
def along (start : Location) : List String → List Location
  | [] => [start]
  | "" :: rest => along start rest
  | "." :: rest => along start rest
  | ".." :: rest => start :: along start.dropLast rest
  | name :: rest => start :: along (start ++ [name]) rest

def pathOf (l : Location) : String := "/" ++ String.intercalate "/" l

/-- A disk with what is really at a location. -/
def look (d : Disk) (l : Location) : IO Disk := do
  let here ← IO.currentDir
  let path := here / pathOf l
  if l = [] ∨ !(← path.pathExists) then return d
  else if ← path.isDir then return d.put l .directory
  else return d.put l (.file (← IO.FS.readBinFile path).toList)

def load (paths : List String) : IO Disk := do
  let working := (Path.parts (← IO.currentDir).toString).filter (· != "")
  let d : Disk := ⟨[], working⟩
  let locations := paths.flatMap fun p => along (d.start p) (Path.parts p)
  (along [] working ++ locations).foldlM look d

/-- What a disk has at a location really put there. -/
def put (l : Location) : DiskEntry → IO Unit
  | .directory => IO.FS.createDirAll (pathOf l)
  | .file content => IO.FS.writeBinFile (pathOf l) ⟨content.toArray⟩

/-- The changes from one disk to another really made: what is shorter comes first. -/
def store (before after : Disk) : IO Unit := do
  let changed := after.entries.filter fun e => before.entries.lookup e.1 != some e.2
  for (l, e) in changed.mergeSort (fun a b => decide (a.1.length ≤ b.1.length)) do
    put l e
  for (l, _) in before.entries do
    if (after.entry? l).isNone then IO.FS.removeFile (pathOf l)

end Courier.Cli.Files
