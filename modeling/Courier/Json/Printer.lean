import Courier.Json.Value
import Courier.Number.Shortest

/-!
The text of JSON values: a compact form, and an indented form of two spaces a level.  Quotes,
backslashes and control characters are escaped; all else stands as it is.
-/

namespace Courier.Json

/-! ### Leaves -/

/-- Numbers from `1e-5` to below `1e16` are positional, and a number without a fraction ends in
`.0` there. -/
def numberLayout : Number.Layout := ⟨fun power => -5 ≤ power && power < 16, true⟩

def hexDigit (n : Nat) : Char := if n < 10 then Char.ofNat (48 + n) else Char.ofNat (87 + n)

/-- The text of a character inside a string. -/
def escapeChar (c : Char) : List Char :=
  if c = '"' then ['\\', '"']
  else if c = '\\' then ['\\', '\\']
  else if c = '\n' then ['\\', 'n']
  else if c = '\r' then ['\\', 'r']
  else if c = '\t' then ['\\', 't']
  else if c.toNat = 8 then ['\\', 'b']
  else if c.toNat = 12 then ['\\', 'f']
  else if c.toNat < 32 then
    ['\\', 'u', '0', '0', hexDigit (c.toNat / 16), hexDigit (c.toNat % 16)]
  else [c]

def quoted (s : String) : List Char := '"' :: s.toList.flatMap escapeChar ++ ['"']

def integerText (i : Int) : List Char :=
  if i < 0 then '-' :: Number.digitsOf i.natAbs else Number.digitsOf i.natAbs

def Numeral.text : Numeral → List Char
  | .int i => integerText i
  | .real x => (numberLayout.text x).toList

/-- The text of a value that is neither array nor object. -/
def leafText : Json → List Char
  | .null => ['n', 'u', 'l', 'l']
  | .bool true => ['t', 'r', 'u', 'e']
  | .bool false => ['f', 'a', 'l', 's', 'e']
  | .num n => n.text
  | .str s => quoted s
  | _ => []

/-! ### Compact form -/

mutual

def compactChars : Json → List Char
  | .arr items => '[' :: compactItems items ++ [']']
  | .obj ms => '{' :: compactMembers ms ++ ['}']
  | v => leafText v

/-- The items of an array, separated by commas. -/
def compactItems : List Json → List Char
  | [] => []
  | [v] => compactChars v
  | v :: vs => compactChars v ++ ',' :: compactItems vs

/-- The members of an object, separated by commas. -/
def compactMembers : List (String × Json) → List Char
  | [] => []
  | [(k, v)] => quoted k ++ ':' :: compactChars v
  | (k, v) :: ms => quoted k ++ ':' :: compactChars v ++ ',' :: compactMembers ms

end

def compact (v : Json) : String := String.ofList (compactChars v)

/-! ### Indented form -/

def newline (level : Nat) : List Char := '\n' :: List.replicate (2 * level) ' '

mutual

/-- The indented text of a value at a level. -/
def prettyChars (level : Nat) : Json → List Char
  | .arr items =>
    if items.isEmpty then ['[', ']']
    else '[' :: prettyItems (level + 1) items ++ newline level ++ [']']
  | .obj ms =>
    if ms.isEmpty then ['{', '}']
    else '{' :: prettyMembers (level + 1) ms ++ newline level ++ ['}']
  | v => leafText v

/-- The items of an array, each on its own line. -/
def prettyItems (level : Nat) : List Json → List Char
  | [] => []
  | [v] => newline level ++ prettyChars level v
  | v :: vs => newline level ++ prettyChars level v ++ ',' :: prettyItems level vs

/-- The members of an object, each on its own line. -/
def prettyMembers (level : Nat) : List (String × Json) → List Char
  | [] => []
  | [(k, v)] => newline level ++ quoted k ++ ':' :: ' ' :: prettyChars level v
  | (k, v) :: ms =>
    newline level ++ quoted k ++ ':' :: ' ' :: prettyChars level v ++ ',' :: prettyMembers level ms

end

def pretty (v : Json) : String := String.ofList (prettyChars 0 v)

end Courier.Json
