import Courier.Json.Scan

/-!
JSON values read from text.  A value stands alone but for blanks, and arrays and objects are
nested at most 127 deep.
-/

namespace Courier.Json

open Text (Bytes)

/-! ### Arrays and objects -/

/-- The items of an array, by the reader of an item.  `first` says that no item was read, so that
the array may end; each item takes one of `fuel`. -/
def items (item : Scan Json) : (fuel : Nat) → (first : Bool) → Scan (List Json)
  | 0, _, bs => stop .endInArray bs
  | fuel + 1, first, bs =>
    match skipBlanks bs with
    | [] => stopAt .endInArray []
    | b :: rest =>
      if b = closeBracket then .ok ([], rest)
      else if first then more fuel (b :: rest)
      else if b = comma then
        match skipBlanks rest with
        | [] => stopAt .endInValue []
        | c :: rest =>
          if c = closeBracket then stopAt .trailingComma (c :: rest) else more fuel (c :: rest)
      else stopAt .arrayCommaOrEndExpected (b :: rest)
where
  /-- An item and those after it. -/
  more (fuel : Nat) (bs : Bytes) : Except Stop (List Json × Bytes) :=
    match item bs with
    | .error s => .error s
    | .ok (v, rest) =>
      match items item fuel false rest with
      | .error s => .error s
      | .ok (vs, rest) => .ok (v :: vs, rest)

/-- The rest after the colon between a key and its value. -/
def afterColon (bs : Bytes) : Except Stop Bytes :=
  match skipBlanks bs with
  | [] => stopAt .endInObject []
  | b :: rest => if b = colon then .ok rest else stopAt .colonExpected (b :: rest)

/-- The members of an object in the order of the text, by the reader of a value. -/
def members (value : Scan Json) : (fuel : Nat) → (first : Bool) → Scan (List (String × Json))
  | 0, _, bs => stop .endInObject bs
  | fuel + 1, first, bs =>
    match skipBlanks bs with
    | [] => stopAt .endInObject []
    | b :: rest =>
      if b = closeBrace then .ok ([], rest)
      else if first then
        if b = quote then more fuel rest else stopAt .keyNotString (b :: rest)
      else if b = comma then
        match skipBlanks rest with
        | [] => stopAt .endInValue []
        | c :: rest =>
          if c = quote then more fuel rest
          else if c = closeBrace then stopAt .trailingComma (c :: rest)
          else stopAt .keyNotString (c :: rest)
      else stopAt .objectCommaOrEndExpected (b :: rest)
where
  /-- A member after the quote of its key, and those after it. -/
  more (fuel : Nat) (bs : Bytes) : Except Stop (List (String × Json) × Bytes) :=
    match string bs with
    | .error s => .error s
    | .ok (k, rest) =>
      match afterColon rest with
      | .error s => .error s
      | .ok rest =>
        match value rest with
        | .error s => .error s
        | .ok (v, rest) =>
          match members value fuel false rest with
          | .error s => .error s
          | .ok (ms, rest) => .ok ((k, v) :: ms, rest)

/-! ### Values -/

/-- The result of a reader with a function applied. -/
def wrap {α : Type} (f : α → Json) : Except Stop (α × Bytes) → Except Stop (Json × Bytes)
  | .ok (a, rest) => .ok (f a, rest)
  | .error s => .error s

/-- The value `v` after the rest of its word. -/
def wordValue (v : Json) (tail : List UInt8) (rest : Bytes) : Except Stop (Json × Bytes) :=
  match word tail rest with
  | .ok rest => .ok (v, rest)
  | .error s => .error s

/-- A value that is neither array nor object, begun by the byte `b`. -/
def leaf (b : UInt8) (rest : Bytes) : Except Stop (Json × Bytes) :=
  if b = 110 then wordValue .null nullTail rest
  else if b = 116 then wordValue (.bool true) trueTail rest
  else if b = 102 then wordValue (.bool false) falseTail rest
  else if b = minus then wrap .num (numeral true rest)
  else if isDigit b then wrap .num (numeral false (b :: rest))
  else if b = quote then wrap .str (string rest)
  else stopAt .valueExpected (b :: rest)

/-- A value in which arrays and objects are nested at most `depth` deep. -/
def value : (depth : Nat) → Scan Json
  | depth, bs =>
    match skipBlanks bs with
    | [] => stopAt .endInValue []
    | b :: rest =>
      if b = openBracket then
        match depth with
        | 0 => stopAt .tooDeep (b :: rest)
        | depth + 1 => wrap .arr (items (value depth) (rest.length + 1) true rest)
      else if b = openBrace then
        match depth with
        | 0 => stopAt .tooDeep (b :: rest)
        | depth + 1 => wrap object (members (value depth) (rest.length + 1) true rest)
      else leaf b rest

/-- How deeply arrays and objects may be nested. -/
def maxDepth : Nat := 127

/-- The thing that a reader finds in the whole text, blanks around it apart. -/
def whole {α : Type} (scan : Scan α) (bs : Bytes) : Except Stop α := do
  let (a, rest) ← scan bs
  match skipBlanks rest with
  | [] => return a
  | b :: rest => stopAt .trailingCharacters (b :: rest)

/-! ### Errors with their place -/

/-- A cause and the place in the text at which reading stopped. -/
structure Error where
  cause : Cause
  place : Place
  deriving DecidableEq, Repr

def Stop.inText (bs : Bytes) (s : Stop) : Error :=
  ⟨s.cause, .after (bs.take (bs.length - s.left))⟩

def Error.message (e : Error) : String :=
  s!"{e.cause.message} at line {e.place.line} column {e.place.column}"

/-- The thing that a reader finds in the whole text, or the error. -/
def readWith {α : Type} (scan : Scan α) (bs : Bytes) : Except Error α :=
  (whole scan bs).mapError (·.inText bs)

def parse (bs : Bytes) : Except Error Json := readWith (value maxDepth) bs

def parseString (s : String) : Except Error Json := parse (Text.Utf8.ofString s)

end Courier.Json
