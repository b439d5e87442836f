/-!
Paths: names separated by slashes, taken apart as text.  A path keeps the spelling it was given;
only slashes at its end, and parts `.` behind others, do not count when its last name is looked
for.
-/

namespace Courier.Path

/-! ### Parts -/

/-- The parts of a text between slashes, empty ones included. -/
def pieces : List Char → List (List Char)
  | [] => [[]]
  | c :: cs =>
    if c = '/' then [] :: pieces cs
    else
      match pieces cs with
      | [] => [[c]]
      | p :: ps => (c :: p) :: ps

def parts (path : String) : List String := (pieces path.toList).map String.ofList

def isAbsolute (path : String) : Bool := path.toList.head? == some '/'

/-- A name that stands for itself. -/
def isName (s : String) : Bool := s != "" && s != "." && s != ".."

/-! ### The last name -/

/-- A reversed text without slashes, and parts `.` behind slashes, at its front. -/
def trimReversed : List Char → List Char
  | '/' :: cs => trimReversed cs
  | '.' :: '/' :: cs => trimReversed ('/' :: cs)
  | cs => cs

/-- The text up to the end of its last part that counts. -/
def trimmed (cs : List Char) : List Char := (trimReversed cs.reverse).reverse

def lastPart (cs : List Char) : List Char := (cs.reverse.takeWhile (· != '/')).reverse

/-- The name of the file that a path leads to. -/
def fileName? (path : String) : Option String :=
  let name := String.ofList (lastPart (trimmed path.toList))
  if isName name then some name else none

/-- A text without its last part, and trimmed; the root stays. -/
def withoutLast (cs : List Char) : List Char :=
  let rest := trimmed ((cs.reverse.dropWhile (· != '/')).reverse)
  if rest = [] ∧ cs.head? = some '/' then ['/'] else rest

/-- The path of the directory in which the last part stands; for a single part it is empty, and
the root and the empty path have none. -/
def parent? (path : String) : Option String :=
  match trimmed path.toList with
  | [] => none
  | c :: cs => some (String.ofList (withoutLast (c :: cs)))

/-- A path and those of the directories above it, innermost first, the empty one left out.  Each
is shorter than the one before it, so that `fuel` can be their number of characters. -/
def ancestors : (fuel : Nat) → String → List String
  | 0, _ => []
  | fuel + 1, path =>
    if path = "" then []
    else
      path :: match parent? path with
        | none => []
        | some p => ancestors fuel p

/-! ### Other names beside a path -/

/-- A name up to its last point, unless that is its first character. -/
def stem (name : List Char) : List Char :=
  match name.reverse.dropWhile (· != '.') with
  | [] => name
  | _ :: rest => if rest = [] then name else rest.reverse

/-- The path with another extension in place of its last one; a path without a name stays. -/
def withExtension (path extension : String) : String :=
  match fileName? path with
  | none => path
  | some name =>
    let text := trimmed path.toList
    let front := text.take (text.length - name.length)
    String.ofList (front ++ stem name.toList ++ '.' :: extension.toList)

def join (base path : String) : String :=
  match base.toList.getLast? with
  | none => path
  | some c => if c = '/' then base ++ path else base ++ "/" ++ path

end Courier.Path
