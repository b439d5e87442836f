import Courier.Url.Segments

/-!
URLs of other schemes: files, which have a path of segments and perhaps a host, and schemes of
which nothing is known, whose URLs have an authority after two slashes, a path after one, or
anything at all.
-/

namespace Courier.Url

/-- A URL of another scheme.  The parts are the texts they have in the URL. -/
structure Other where
  scheme : String
  /-- the user, and the host with the port -/
  authority : Option (List Char × List Char)
  path : List Char
  query : Option String
  fragment : Option String
  deriving DecidableEq, Repr

namespace Other

/-! ### Views -/

def hasHost (u : Other) : Bool :=
  match u.authority with
  | some (_, host) => !host.isEmpty
  | none => false

def withoutUser (u : Other) : Other :=
  { u with authority := u.authority.map fun a => ([], a.2) }

/-- What stands between the scheme and the path: where there is no authority, a path must not
begin as one. -/
def authorityText (u : Other) : List Char :=
  match u.authority with
  | some (user, host) => '/' :: '/' :: user ++ host
  | none => if ['/', '/'].isPrefixOf u.path then ['/', '.'] else []

def text (u : Other) : String :=
  String.ofList (u.scheme.toList ++ ':' :: u.authorityText ++ u.path ++ partText '?' u.query ++
    partText '#' u.fragment)

/-! ### Unknown schemes -/

/-- Characters that no host of an unknown scheme holds. -/
def deniedInHost (c : Char) : Bool :=
  ['\x00', '\t', '\n', '\r', ' ', '#', '/', ':', '<', '>', '?', '@', '[', '\\', ']', '^',
    '|'].contains c

/-- A host that is kept as it is, but for characters that cannot stand in a URL. -/
def readOpaqueHost (cs : List Char) : Except Refusal (List Char) :=
  if cs.head? = some '[' then (bracketHost cs).map Host.text
  else if cs.any deniedInHost then .error .invalidHostCharacter
  else .ok (Percent.encode Percent.controls cs)

/-- The authority at the front of what follows two slashes; `atEnd` tells that nothing follows
it. -/
def readAuthority (authority : List Char) (atEnd : Bool) :
    Except Refusal (List Char × List Char) := do
  let (user, hostPort) := splitUser authority
  let (host, rest) := splitHost false hostPort
  if user = some [] ∧ hostPort.isEmpty ∧ ¬atEnd then throw .emptyHost
  let hostText ← readOpaqueHost host
  if host.isEmpty ∧ ¬rest.isEmpty then throw .emptyHost
  let port ← readPort none ((rest.drop 1).takeWhile (· ≠ '\\'))
  let (username, password) := readUser (user.getD [])
  let a : Authority := ⟨username, password, .domain (String.ofList hostText), port⟩
  if host.isEmpty ∧ ¬a.userText.isEmpty then throw .emptyHost
  return (a.userText, a.text.drop a.userText.length)

/-- The characters encoded in the query of an unknown scheme. -/
def querySet (c : Char) : Bool := Percent.query c && c != '\''

/-- The URL of an unknown scheme, after its colon. -/
def readUnknown (scheme : String) (cs : List Char) : Except Refusal Other := do
  let front := cs.takeWhile (!endsPath ·)
  let afterPath := cs.dropWhile (!endsPath ·)
  let query := readPart '?' querySet (· == '#') afterPath
  let fragment := readPart '#' Percent.fragment (fun _ => false) (afterPath.dropWhile (· ≠ '#'))
  match front with
  | '/' :: '/' :: rest =>
    let path := rest.dropWhile (· ≠ '/')
    let authority ← readAuthority (rest.takeWhile (· ≠ '/')) (path.isEmpty ∧ afterPath.isEmpty)
    let segments := if path.isEmpty then [] else readSegments (path.drop 1)
    return ⟨scheme, some authority, pathText segments, query, fragment⟩
  | '/' :: rest => return ⟨scheme, none, pathText (readSegments rest), query, fragment⟩
  | _ => return ⟨scheme, none, Percent.encode Percent.controls front, query, fragment⟩
where
  /-- The segments between single slashes. -/
  readSegments (cs : List Char) : List String :=
    ((resolve [] (Address.splitOn '/' cs)).reverse).map String.ofList

/-! ### Files -/

/-- A segment that names a drive, with a colon. -/
def normalDrive (s : List Char) : List Char :=
  match s with
  | [c, d] => if isDrive [c, d] then [c, ':'] else [c, d]
  | s => s

/-- The host of a file and the rest; the name of a drive is part of the path. -/
def fileHost (cs : List Char) : List Char × List Char :=
  match cs with
  | a :: b :: rest =>
    if isSlash a ∧ isSlash b then
      let host := rest.takeWhile (!endsAuthority ·)
      if isDrive host then ([], rest) else (host, rest.dropWhile (!endsAuthority ·))
    else ([], cs)
  | cs => ([], cs)

/-- The URL of a file, after its colon.  A path that begins with a drive has no host. -/
def readFile (cs : List Char) : Except Refusal Other := do
  let (host, rest) := fileHost cs
  let host ← if host.isEmpty then pure [] else (readHost host).map Host.text
  let afterPath := rest.dropWhile (!endsPath ·)
  let query := readPart '?' Percent.query (· == '#') afterPath
  let fragment := readPart '#' Percent.fragment (fun _ => false) (afterPath.dropWhile (· ≠ '#'))
  let segments := (readPath (rest.takeWhile (!endsPath ·))).map String.toList
  let segments := (segments.map normalDrive).dropWhile List.isEmpty
  let drive := segments.head?.any isDrive
  let host := if drive ∨ host = "localhost".toList then [] else host
  let path := if segments.isEmpty then ['/'] else pathText (segments.map String.ofList)
  return ⟨"file", some ([], host), path, query, fragment⟩

/-- The URL of a scheme that is not one of those with hosts, after its colon. -/
def readAfterScheme (scheme : String) (cs : List Char) : Except Refusal Other :=
  if scheme = "file" then readFile cs else readUnknown scheme cs

end Other

end Courier.Url
