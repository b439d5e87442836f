import Courier.Url.Other

/-!
URLs read from text.  Blanks and controls around the text are dropped, and tabs and line ends
within it.  A text is the URL of a scheme with an authority and segments, or some other URL, or no
URL.
-/

namespace Courier.Url

/-- What a text is. -/
inductive Reading
  | url (u : Url)
  | other (u : Other)
  deriving DecidableEq, Repr

/-! ### Scheme -/

/-- Whether a character is dropped at the ends. -/
def isOuter (c : Char) : Bool := c.toNat ≤ 0x20

/-- Whether a character is dropped everywhere. -/
def isIgnored (c : Char) : Bool := c == '\t' || c == '\n' || c == '\r'

def clean (cs : List Char) : List Char :=
  let front := cs.dropWhile isOuter
  ((front.reverse.dropWhile isOuter).reverse).filter (!isIgnored ·)

/-- Whether a character stands in the name of a scheme after its first letter. -/
def inScheme (c : Char) : Bool := c.isAlphanum || c == '+' || c == '-' || c == '.'

/-- The name of the scheme in small letters, and what follows its colon. -/
def splitScheme? (cs : List Char) : Option (String × List Char) :=
  let name := cs.takeWhile inScheme
  match name, cs.dropWhile inScheme with
  | c :: _, ':' :: rest =>
    if c.isAlpha then some (String.ofList (name.map Char.toLower), rest) else none
  | _, _ => none

/-! ### Whole URLs -/

/-- The URL of a scheme with hosts, after its colon. -/
def readAfterScheme (scheme : Scheme) (cs : List Char) : Except Refusal Url := do
  let cs := cs.dropWhile isSlash
  let authority ← readAuthority scheme (cs.takeWhile (!endsAuthority ·))
  let rest := cs.dropWhile (!endsAuthority ·)
  let afterPath := rest.dropWhile (!endsPath ·)
  let afterQuery := afterPath.dropWhile (· ≠ '#')
  return {
    scheme, authority
    path := readPath (rest.takeWhile (!endsPath ·))
    query := readPart '?' Percent.query (· == '#') afterPath
    fragment := readPart '#' Percent.fragment (fun _ => false) afterQuery }

def read (s : String) : Except Refusal Reading :=
  match splitScheme? (clean s.toList) with
  | none => .error .relative
  | some (name, rest) =>
    match Scheme.ofName? name with
    | some scheme => (readAfterScheme scheme rest).map .url
    | none => (Other.readAfterScheme name rest).map .other

end Courier.Url
