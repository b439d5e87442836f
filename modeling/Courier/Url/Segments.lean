import Courier.Url.Authority

/-!
The path, the query and the fragment of a URL read from text.  Segments of a path that mean the
place itself or the one above are resolved.
-/

namespace Courier.Url

/-! ### Path -/

/-- Whether a segment means the place itself. -/
def isHere (cs : List Char) : Bool :=
  [['.'], ['%', '2', 'e'], ['%', '2', 'E']].contains cs

/-- Whether a segment means the place above. -/
def isAbove (cs : List Char) : Bool :=
  let dot := [['.'], ['%', '2', 'e'], ['%', '2', 'E']]
  (dot.flatMap fun a => dot.map (a ++ ·)).contains cs

/-- Whether a segment is the name of a drive, which is never left. -/
def isDrive : List Char → Bool
  | [c, d] => c.isAlpha && (d == ':' || d == '|')
  | _ => false

/-- The segments above the last one; those of the path so far are in reverse order. -/
def leave : List (List Char) → List (List Char)
  | [] => []
  | s :: ss => if isDrive s then s :: ss else ss

/-- The text split at slashes of both kinds. -/
def splitSlashes : List Char → List (List Char)
  | [] => [[]]
  | c :: cs =>
    if isSlash c then [] :: splitSlashes cs
    else
      match splitSlashes cs with
      | s :: ss => (c :: s) :: ss
      | [] => [[c]]

/-- The segments of a path, in reverse order, after those before it.  Segments that mean a place
are resolved; as the last one they leave an empty segment. -/
def resolve : (before : List (List Char)) → List (List Char) → List (List Char)
  | before, [] => before
  | before, [s] =>
    let s := Percent.encode Percent.path s
    if isAbove s then [] :: leave before
    else if isHere s then [] :: before
    else s :: before
  | before, s :: ss =>
    let s := Percent.encode Percent.path s
    if isAbove s then resolve (leave before) ss
    else if isHere s then resolve before ss
    else resolve (s :: before) ss

/-- The segments of the path that a text writes after its authority. -/
def readPath (cs : List Char) : List String :=
  let cs := match cs with
    | c :: rest => if isSlash c then rest else cs
    | [] => []
  ((resolve [] (splitSlashes cs)).reverse).map String.ofList

/-! ### Query and fragment -/

def endsPath (c : Char) : Bool := c == '?' || c == '#'

/-- The part after a mark at the front, up to the given end, encoded. -/
def readPart (mark : Char) (set stop : Char → Bool) (cs : List Char) : Option String :=
  match cs with
  | c :: rest =>
    if c = mark then some (String.ofList (Percent.encode set (rest.takeWhile (!stop ·)))) else none
  | [] => none

end Courier.Url
