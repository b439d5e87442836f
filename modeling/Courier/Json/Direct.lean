import Courier.Json.Reader
import Courier.Json.Shape

/-!
Values of a wanted shape read straight from text, so that a mismatch has a place in it.  Members
that the shape does not know are passed over, whatever their depth.
-/

namespace Courier.Json.Direct

open Text (Bytes)

/-! ### Leaves -/

/-- Stops before the rest for a mismatch. -/
def misfit {α : Type} (m : Mismatch) (rest : Bytes) : Except Stop α := stop (.shape m.message) rest

/-- Stops after the thing that stands where another was wanted, or before it if it is an array or
an object. -/
def wrongType {α : Type} (wanted : String) (b : UInt8) (rest : Bytes) : Except Stop α :=
  if b = openBracket then misfit (.wrongType .arr wanted) (b :: rest)
  else if b = openBrace then misfit (.wrongType .obj wanted) (b :: rest)
  else
    match leaf b rest with
    | .ok (v, rest) => misfit (.wrongType v.found wanted) rest
    | .error s => .error s

/-- A thing whose first byte is seen. -/
def onFirst {α : Type} (read : UInt8 → Bytes → Except Stop (α × Bytes)) : Scan α := fun bs =>
  match skipBlanks bs with
  | [] => stopAt .endInValue []
  | b :: rest => read b rest

def text (wanted : String) : Scan String :=
  onFirst fun b rest => if b = quote then string rest else wrongType wanted b rest

def flag : Scan Json :=
  onFirst fun b rest =>
    if b = 116 then wordValue (.bool true) trueTail rest
    else if b = 102 then wordValue (.bool false) falseTail rest
    else wrongType "a boolean" b rest

def number (fit : Numeral → Except Mismatch Json) (wanted : String) : Scan Json :=
  onFirst fun b rest =>
    let fitted (r : Except Stop (Numeral × Bytes)) : Except Stop (Json × Bytes) :=
      match r with
      | .error s => .error s
      | .ok (n, rest) =>
        match fit n with
        | .ok v => .ok (v, rest)
        | .error m => misfit m rest
    if b = minus then fitted (numeral true rest)
    else if isDigit b then fitted (numeral false (b :: rest))
    else wrongType wanted b rest

def optional (read : Scan Json) : Scan Json := fun bs =>
  match skipBlanks bs with
  | b :: rest => if b = 110 then wordValue .null nullTail rest else read (b :: rest)
  | [] => read []

def unit : Scan Json :=
  onFirst fun b rest =>
    if b = 110 then wordValue .null nullTail rest else wrongType "unit" b rest

/-! ### Values passed over -/

def skipDigits (bs : Bytes) : Bytes := bs.dropWhile isDigit

/-- The rest after an exponent whose mark was passed. -/
def skipExponent (bs : Bytes) : Except Stop Bytes :=
  let rest :=
    match bs with
    | b :: r => if b = plus ∨ b = minus then r else bs
    | [] => []
  match rest with
  | [] => stop .invalidNumber []
  | b :: r => if isDigit b then .ok (skipDigits r) else stop .invalidNumber r

/-- The rest after an exponent, if one follows. -/
def skipExponent? : Bytes → Except Stop Bytes
  | b :: r => if isExponentMark b then skipExponent r else .ok (b :: r)
  | [] => .ok []

/-- The rest after a fraction and an exponent, if they follow. -/
def skipFraction? : Bytes → Except Stop Bytes
  | b :: r =>
    if b = point then
      match r with
      | c :: r' => if isDigit c then skipExponent? (skipDigits r') else stopAt .invalidNumber (c :: r')
      | [] => stopAt .invalidNumber []
    else skipExponent? (b :: r)
  | [] => .ok []

/-- The rest after a number whose sign was passed.  Its size does not matter. -/
def skipNumber : Bytes → Except Stop Bytes
  | [] => stop .invalidNumber []
  | b :: r =>
    if b = 48 then
      match r with
      | c :: r' => if isDigit c then stopAt .invalidNumber (c :: r') else skipFraction? r
      | [] => .ok []
    else if isDigit b then skipFraction? (skipDigits r)
    else stop .invalidNumber r

/-- The rest after a string whose quote was passed.  Surrogates need not come in pairs. -/
def skipString : Bytes → Except Stop Bytes
  | [] => stop .endInString []
  | b :: rest =>
    if b = quote then .ok rest
    else if b = backslash then
      match rest with
      | [] => stop .endInString []
      | e :: rest =>
        if e = 117 then
          match rest with
          | h₁ :: h₂ :: h₃ :: h₄ :: rest =>
            match hexValue4? h₁ h₂ h₃ h₄ with
            | none => stop .invalidEscape rest
            | some _ => skipString rest
          | _ => stop .endInString []
        else
          match simpleEscape? e with
          | some _ => skipString rest
          | none => stop .invalidEscape rest
    else if b < 32 then stop .controlCharacter rest
    else skipString rest

/-- An array or an object that has been entered. -/
inductive Frame
  | array
  | object
  deriving DecidableEq, Repr

namespace Frame

def close : Frame → UInt8
  | array => closeBracket
  | object => closeBrace

/-- The text ends within a frame. -/
def unfinished : Frame → Cause
  | array => .endInArray
  | object => .endInObject

/-- Neither a comma nor the end of a frame follows. -/
def noComma : Frame → Cause
  | array => .arrayCommaOrEndExpected
  | object => .objectCommaOrEndExpected

end Frame

/-- What is to be passed next. -/
inductive Skip
  /-- a value -/
  | value
  /-- the end of the innermost frame, or its first item -/
  | entered
  /-- the end of the innermost frame, or a comma -/
  | passed

def skipKey (bs : Bytes) : Except Stop Bytes :=
  match skipBlanks bs with
  | [] => stopAt .endInObject []
  | b :: rest =>
    if b = quote then
      match skipString rest with
      | .ok rest => afterColon rest
      | .error s => .error s
    else stopAt .keyNotString (b :: rest)

/-- The rest after what is to be passed within the frames, innermost first.  Every step passes a
byte or turns from an item to what follows it, so that twice the bytes are fuel enough. -/
def skip : (fuel : Nat) → Skip → List Frame → Bytes → Except Stop Bytes
  | 0, _, _, bs => stop .endInValue bs
  | fuel + 1, .value, frames, bs =>
    match skipBlanks bs with
    | [] => stopAt .endInValue []
    | b :: rest =>
      if b = openBracket then skip fuel .entered (.array :: frames) rest
      else if b = openBrace then skip fuel .entered (.object :: frames) rest
      else
        let after (r : Except Stop Bytes) : Except Stop Bytes :=
          match r with
          | .error s => .error s
          | .ok rest => skip fuel .passed frames rest
        if b = 110 then after (word nullTail rest)
        else if b = 116 then after (word trueTail rest)
        else if b = 102 then after (word falseTail rest)
        else if b = minus then after (skipNumber rest)
        else if isDigit b then after (skipNumber (b :: rest))
        else if b = quote then after (skipString rest)
        else stopAt .valueExpected (b :: rest)
  | _ + 1, _, [], bs => .ok bs
  | fuel + 1, step, frame :: frames, bs =>
    let next (bs : Bytes) : Except Stop Bytes :=
      match frame with
      | .array => skip fuel .value (frame :: frames) bs
      | .object =>
        match skipKey bs with
        | .ok bs => skip fuel .value (frame :: frames) bs
        | .error s => .error s
    match skipBlanks bs with
    | [] => stopAt frame.unfinished []
    | b :: rest =>
      if b = frame.close then skip fuel .passed frames rest
      else
        match step with
        | .passed => if b = comma then next rest else stopAt frame.noComma (b :: rest)
        | _ => next (b :: rest)

/-- The rest after a value of any shape and depth. -/
def skipValue (bs : Bytes) : Except Stop Bytes := skip (2 * bs.length + 2) .value [] bs

/-! ### Records -/

/-- A field with what reads its value. -/
structure FieldScan where
  name : String
  absence : Absence
  scan : Scan Json

/-- Stops for an error found between the parts of an array or object: its end, if it follows, is
passed before the place is taken. -/
def misfitInside {α : Type} (m : Mismatch) (close : UInt8) (rest : Bytes) : Except Stop α :=
  match skipBlanks rest with
  | b :: rest => if b = close then misfit m rest else misfit m (b :: rest)
  | [] => misfit m []

/-- The members of an object that have a field, in the order of the text.  `first` says that no
member was read; `seen` holds the fields read. -/
def fieldMembers (fields : List FieldScan) :
    (fuel : Nat) → (first : Bool) → (seen : List String) → Scan Members
  | 0, _, _, bs => stop .endInObject bs
  | fuel + 1, first, seen, bs =>
    match skipBlanks bs with
    | [] => stopAt .endInObject []
    | b :: rest =>
      if b = closeBrace then .ok ([], rest)
      else if first then
        if b = quote then more fuel seen rest else stopAt .keyNotString (b :: rest)
      else if b = comma then
        match skipBlanks rest with
        | [] => stopAt .endInValue []
        | c :: rest =>
          if c = quote then more fuel seen rest
          else if c = closeBrace then stopAt .trailingComma (c :: rest)
          else stopAt .keyNotString (c :: rest)
      else stopAt .objectCommaOrEndExpected (b :: rest)
where
  /-- A member after the quote of its key, and those after it. -/
  more (fuel : Nat) (seen : List String) (bs : Bytes) : Except Stop (Members × Bytes) :=
    match string bs with
    | .error s => .error s
    | .ok (k, rest) =>
      match fields.find? (·.name == k) with
      | none =>
        match (afterColon rest).bind skipValue with
        | .error s => .error s
        | .ok rest => fieldMembers fields fuel false seen rest
      | some f =>
        if seen.contains k then misfitInside (.duplicateField k) closeBrace rest
        else
          match (afterColon rest).bind f.scan with
          | .error s => .error s
          | .ok (v, rest) =>
            match fieldMembers fields fuel false (k :: seen) rest with
            | .error s => .error s
            | .ok (ms, rest) => .ok ((k, v) :: ms, rest)

/-- The items of an array as members for the fields in order.  `done` counts the items read, and
`ended` says that the array ended before. -/
def fieldItems (type : String) (count : Nat) :
    List FieldScan → (done : Nat) → (ended : Bool) → Scan Members
  | [], _, true, bs => .ok ([], bs)
  | [], _, false, bs =>
    match skipBlanks bs with
    | [] => stopAt .endInArray []
    | b :: rest =>
      if b = closeBracket then .ok ([], rest)
      else if b = comma then
        match skipBlanks rest with
        | c :: rest =>
          if c = closeBracket then stopAt .trailingComma (c :: rest)
          else stopAt .trailingCharacters (c :: rest)
        | [] => stopAt .trailingCharacters []
      else stopAt .trailingCharacters (b :: rest)
  | f :: fs, done, ended, bs =>
    let andRest (v : Json) (ended : Bool) (rest : Bytes) : Except Stop (Members × Bytes) :=
      match fieldItems type count fs (done + 1) ended rest with
      | .error s => .error s
      | .ok (ms, rest) => .ok ((f.name, v) :: ms, rest)
    let absent (rest : Bytes) : Except Stop (Members × Bytes) :=
      match f.absence.item? with
      | some v => andRest v true rest
      | none => misfit (Shape.tooFew type count done) rest
    let item (bs : Bytes) : Except Stop (Members × Bytes) :=
      match f.scan bs with
      | .error s => .error s
      | .ok (v, rest) => andRest v false rest
    if ended then absent bs
    else
      match skipBlanks bs with
      | [] => stopAt .endInArray []
      | b :: rest =>
        if b = closeBracket then absent rest
        else if done = 0 then item (b :: rest)
        else if b = comma then
          match skipBlanks rest with
          | [] => stopAt .endInValue []
          | c :: rest =>
            if c = closeBracket then stopAt .trailingComma (c :: rest) else item (c :: rest)
        else stopAt .arrayCommaOrEndExpected (b :: rest)

def record (type : String) (fields : List FieldScan) : Scan Json :=
  onFirst fun b rest =>
    if b = openBracket then wrap .obj (fieldItems type fields.length fields 0 false rest)
    else if b = openBrace then
      match fieldMembers fields (rest.length + 1) true [] rest with
      | .error s => .error s
      | .ok (ms, rest) =>
        match Shape.complete (fields.map fun f => (f.name, f.absence)) ms with
        | .ok ms => .ok (.obj ms, rest)
        | .error m => misfit m rest
    else wrongType s!"struct {type}" b rest

/-! ### Lists and dictionaries -/

def list (item : Scan Json) : Scan Json :=
  onFirst fun b rest =>
    if b = openBracket then wrap .arr (items item (rest.length + 1) true rest)
    else wrongType "a sequence" b rest

def dictionary (value : Scan Json) : Scan Json :=
  onFirst fun b rest =>
    if b = openBrace then wrap object (members value (rest.length + 1) true rest)
    else wrongType "a map" b rest

/-! ### Names -/

def knownName {α : Type} (known : List (String × α)) : Scan α := fun bs =>
  match text "variant identifier" bs with
  | .error s => .error s
  | .ok (name, rest) =>
    match known.find? (·.1 == name) with
    | some (_, a) => .ok (a, rest)
    | none => misfit (.unknownName name (known.map (·.1))) rest

/-- One of the known names, alone or as the key of null in an object. -/
def name {α : Type} (known : List (String × α)) : Scan α := fun bs =>
  match skipBlanks bs with
  | [] => stopAt .endInValue []
  | b :: rest =>
    if b = openBrace then do
      let (a, rest) ← knownName known rest
      let rest ← afterColon rest
      let (_, rest) ← unit rest
      match skipBlanks rest with
      | [] => stop .endInObject []
      | b :: rest => if b = closeBrace then return (a, rest) else stop .valueExpected (b :: rest)
    else if b = quote then knownName known (b :: rest)
    else stopAt .valueExpected (b :: rest)

end Courier.Json.Direct

namespace Courier.Json.Shape

mutual

/-- The value of a shape at the front of text, fitted. -/
def scan : Shape → Scan Json
  | any => value maxDepth
  | text => fun bs => wrap .str (Direct.text "a string" bs)
  | flag => Direct.flag
  | real => Direct.number (fun n => .ok (widened n)) "f64"
  | integer low high wanted => Direct.number (bounded low high wanted) wanted
  | optional shape => Direct.optional shape.scan
  | list shape => Direct.list shape.scan
  | dictionary shape => Direct.dictionary shape.scan
  | record type fields => Direct.record type (fieldScans fields)

/-- The fields with what reads their values. -/
def fieldScans : List (String × Absence × Shape) → List Direct.FieldScan
  | [] => []
  | (name, absence, shape) :: fields => ⟨name, absence, shape.scan⟩ :: fieldScans fields

end

end Courier.Json.Shape
