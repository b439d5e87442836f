import Courier.Json.Value
import Courier.Text.Utf8

/-!
The tokens of JSON text, read from bytes: blanks, words, numbers and strings.  Reading that stops
tells the cause and how many bytes were not passed yet, from which line and column follow.
-/

namespace Courier.Json

open Text (Bytes)

/-! ### Causes and places -/

/-- Why reading stopped. -/
inductive Cause
  | endInArray
  | endInObject
  | endInString
  | endInValue
  | colonExpected
  | arrayCommaOrEndExpected
  | objectCommaOrEndExpected
  | wordExpected
  | valueExpected
  | invalidEscape
  | invalidNumber
  | numberOutOfRange
  | invalidCodePoint
  | controlCharacter
  | keyNotString
  | loneSurrogate
  | escapeCutShort
  | trailingComma
  | trailingCharacters
  | tooDeep
  /-- the text is JSON, and not of the wanted shape -/
  | shape (text : String)
  deriving DecidableEq, Repr

def Cause.message : Cause → String
  | endInArray => "EOF while parsing a list"
  | endInObject => "EOF while parsing an object"
  | endInString => "EOF while parsing a string"
  | endInValue => "EOF while parsing a value"
  | colonExpected => "expected `:`"
  | arrayCommaOrEndExpected => "expected `,` or `]`"
  | objectCommaOrEndExpected => "expected `,` or `\x7d`"
  | wordExpected => "expected ident"
  | valueExpected => "expected value"
  | invalidEscape => "invalid escape"
  | invalidNumber => "invalid number"
  | numberOutOfRange => "number out of range"
  | invalidCodePoint => "invalid unicode code point"
  | controlCharacter => "control character (\\u0000-\\u001F) found while parsing a string"
  | keyNotString => "key must be a string"
  | loneSurrogate => "lone leading surrogate in hex escape"
  | escapeCutShort => "unexpected end of hex escape"
  | trailingComma => "trailing comma"
  | trailingCharacters => "trailing characters"
  | tooDeep => "recursion limit exceeded"
  | shape text => text

/-- Reading stopped for a cause when `left` bytes were not passed. -/
structure Stop where
  cause : Cause
  left : Nat
  deriving DecidableEq, Repr

/-- Reading of a thing from the front of bytes, with the rest. -/
abbrev Scan (α : Type) := Bytes → Except Stop (α × Bytes)

def stop {α : Type} (cause : Cause) (rest : Bytes) : Except Stop α := .error ⟨cause, rest.length⟩

/-- Stops at the first byte of the rest, which counts as passed. -/
def stopAt {α : Type} (cause : Cause) (rest : Bytes) : Except Stop α :=
  .error ⟨cause, rest.length - 1⟩

/-- A line and a column, counted in bytes. -/
structure Place where
  line : Nat
  column : Nat
  deriving DecidableEq, Repr

def Place.after (passed : Bytes) : Place :=
  ⟨1 + passed.count 10, (passed.reverse.takeWhile (· != 10)).length⟩

/-! ### Bytes -/

def quote : UInt8 := 34
def backslash : UInt8 := 92
def comma : UInt8 := 44
def colon : UInt8 := 58
def openBracket : UInt8 := 91
def closeBracket : UInt8 := 93
def openBrace : UInt8 := 123
def closeBrace : UInt8 := 125
def minus : UInt8 := 45
def plus : UInt8 := 43
def point : UInt8 := 46

def isBlank (b : UInt8) : Bool := b == 32 || b == 10 || b == 9 || b == 13

def isDigit (b : UInt8) : Bool := 48 ≤ b && b ≤ 57

def isExponentMark (b : UInt8) : Bool := b == 101 || b == 69

def skipBlanks (bs : Bytes) : Bytes := bs.dropWhile isBlank

/-- The rest after a word whose first letter was seen. -/
def word : List UInt8 → Bytes → Except Stop Bytes
  | [], rest => .ok rest
  | _ :: _, [] => stop .endInValue []
  | w :: ws, b :: rest => if b = w then word ws rest else stop .wordExpected rest

/-- The bytes of `ull`, `rue` and `alse`. -/
def nullTail : List UInt8 := [117, 108, 108]
def trueTail : List UInt8 := [114, 117, 101]
def falseTail : List UInt8 := [97, 108, 115, 101]

/-! ### Numbers -/

/-- A number as written. -/
structure Digits where
  negative : Bool
  whole : List Nat
  fraction : Option (List Nat)
  /-- the sign of the exponent and its digits -/
  exponent : Option (Bool × List Nat)
  deriving DecidableEq, Repr

def digitRun (bs : Bytes) : List Nat × Bytes :=
  ((bs.takeWhile isDigit).map fun b => b.toNat - 48, bs.dropWhile isDigit)

def maxUnsigned : Nat := Nat.pow 2 64 - 1

/-- The number that digits write after `n`, as long as it stays in 64 bits, and how many digits
are left then. -/
def gather : Nat → List Nat → Nat × Nat
  | n, [] => (n, 0)
  | n, d :: ds => if maxUnsigned < n * 10 + d then (n, ds.length + 1) else gather (n * 10 + d) ds

def digitsValue (ds : List Nat) : Nat := ds.foldl (fun n d => n * 10 + d) 0

/-- The greatest exponent that is read to its end. -/
def maxExponent : Nat := Nat.pow 2 31 - 1

/-- The significand and the power of ten of a number before its exponent is applied.  Digits that
do not fit 64 bits are dropped; those of the whole part raise the power. -/
def Digits.scaled (d : Digits) : Nat × Int :=
  let (n, surplus) := gather 0 d.whole
  match d.fraction with
  | none => (n, surplus)
  | some ds =>
    let (m, left) := gather n ds
    (m, (surplus : Int) - (ds.length - left : Nat))

/-- The binary64 number, none if it is out of range. -/
def Digits.real? (d : Digits) : Option Number.Binary64 :=
  let (n, power) := d.scaled
  match d.exponent with
  | none => Number.Binary64.ofDecimal? d.negative n power
  | some (negative, ds) =>
    let e : Int := digitsValue ds
    if maxExponent < digitsValue ds then
      if n ≠ 0 ∧ ¬negative then none else some (.zero d.negative)
    else Number.Binary64.ofDecimal? d.negative n (if negative then power - e else power + e)

/-- The number written: an integer if it is written as one and has at most 64 bits, the sign
included. -/
def Digits.numeral? (d : Digits) : Option Numeral :=
  let (n, surplus) := gather 0 d.whole
  if d.fraction.isNone ∧ d.exponent.isNone ∧ surplus = 0 then
    if ¬d.negative then some (.int n)
    else if n = 0 ∨ Nat.pow 2 63 < n then (Number.Binary64.ofRatio? true n 1).map .real
    else some (.int (-n))
  else d.real?.map .real

/-- How many digits of an exponent are read past the one with which it becomes too large. -/
def excess : Nat → List Nat → Nat
  | _, [] => 0
  | n, d :: ds => if maxExponent < n * 10 + d then ds.length else excess (n * 10 + d) ds

def exponentPart (bs : Bytes) : Except Stop ((Bool × List Nat) × Bytes) :=
  let (negative, rest) :=
    match bs with
    | b :: r => if b = plus then (false, r) else if b = minus then (true, r) else (false, bs)
    | [] => (false, [])
  match rest with
  | [] => stop .endInValue []
  | b :: r =>
    if isDigit b then
      let (ds, r) := digitRun rest
      .ok ((negative, ds), r)
    else stop .invalidNumber r

def exponentPart? (bs : Bytes) : Except Stop (Option (Bool × List Nat) × Bytes) :=
  match bs with
  | b :: r =>
    if isExponentMark b then
      match exponentPart r with
      | .ok (e, r) => .ok (some e, r)
      | .error s => .error s
    else .ok (none, bs)
  | [] => .ok (none, [])

def fractionPart? (bs : Bytes) : Except Stop (Option (List Nat) × Bytes) :=
  match bs with
  | b :: r =>
    if b = point then
      match digitRun r with
      | ([], []) => stop .endInValue []
      | ([], c :: r) => stopAt .invalidNumber (c :: r)
      | (ds, r) => .ok (some ds, r)
    else .ok (none, bs)
  | [] => .ok (none, [])

/-- The whole part: a zero alone, or digits that begin with another one. -/
def wholePart (bs : Bytes) : Except Stop (List Nat × Bytes) :=
  match bs with
  | [] => stop .endInValue []
  | b :: r =>
    if b = 48 then
      match r with
      | c :: r' => if isDigit c then stopAt .invalidNumber (c :: r') else .ok ([0], r)
      | [] => .ok ([0], [])
    else if isDigit b then .ok (digitRun bs)
    else stop .invalidNumber r

/-- A number whose sign was passed, as written. -/
def digits (negative : Bool) (bs : Bytes) : Except Stop (Digits × Bytes) := do
  let (whole, r) ← wholePart bs
  let (fraction, r) ← fractionPart? r
  let (exponent, r) ← exponentPart? r
  return (⟨negative, whole, fraction, exponent⟩, r)

def numeral (negative : Bool) : Scan Numeral := fun bs => do
  let (d, r) ← digits negative bs
  match d.numeral? with
  | some n => return (n, r)
  | none =>
    .error ⟨.numberOutOfRange, r.length + (d.exponent.elim 0 fun e => excess 0 e.2)⟩

/-! ### Strings -/

def hexValue? (b : UInt8) : Option Nat :=
  let n := b.toNat
  if 48 ≤ n ∧ n ≤ 57 then some (n - 48)
  else if 97 ≤ n ∧ n ≤ 102 then some (n - 87)
  else if 65 ≤ n ∧ n ≤ 70 then some (n - 55)
  else none

def hexValue4? (a b c d : UInt8) : Option Nat := do
  return (((← hexValue? a) * 16 + (← hexValue? b)) * 16 + (← hexValue? c)) * 16 + (← hexValue? d)

def isHighSurrogate (n : Nat) : Bool := 0xD800 ≤ n && n < 0xDC00

def isLowSurrogate (n : Nat) : Bool := 0xDC00 ≤ n && n < 0xE000

def joinSurrogates (high low : Nat) : Char :=
  Char.ofNat (0x10000 + (high - 0xD800) * 1024 + (low - 0xDC00))

def simpleEscape? (b : UInt8) : Option UInt8 :=
  if b = quote ∨ b = backslash ∨ b = 47 then some b
  else if b = 98 then some 8
  else if b = 102 then some 12
  else if b = 110 then some 10
  else if b = 114 then some 13
  else if b = 116 then some 9
  else none

/-- The bytes put before those of the string that follows. -/
def prepend (front : Bytes) : Except Stop (Bytes × Bytes) → Except Stop (Bytes × Bytes)
  | .ok (bs, r) => .ok (front ++ bs, r)
  | .error s => .error s

/-- The bytes that a string denotes, after its opening quote. -/
def stringBody : Scan Bytes
  | [] => stop .endInString []
  | b :: rest =>
    if b = quote then .ok ([], rest)
    else if b = backslash then
      match rest with
      | [] => stop .endInString []
      | e :: rest =>
        if e = 117 then
          match rest with
          | h₁ :: h₂ :: h₃ :: h₄ :: rest =>
            match hexValue4? h₁ h₂ h₃ h₄ with
            | none => stop .invalidEscape rest
            | some n =>
              if isLowSurrogate n then stop .loneSurrogate rest
              else if isHighSurrogate n then
                match rest with
                | [] => stop .endInString []
                | s :: rest =>
                  if s = backslash then
                    match rest with
                    | [] => stop .endInString []
                    | u :: rest =>
                      if u = 117 then
                        match rest with
                        | k₁ :: k₂ :: k₃ :: k₄ :: rest =>
                          match hexValue4? k₁ k₂ k₃ k₄ with
                          | none => stop .invalidEscape rest
                          | some m =>
                            if isLowSurrogate m then
                              prepend (Text.Utf8.encodeChar (joinSurrogates n m)) (stringBody rest)
                            else stop .loneSurrogate rest
                        | _ => stop .endInString []
                      else stop .escapeCutShort rest
                  else stop .escapeCutShort rest
              else prepend (Text.Utf8.encodeChar (Char.ofNat n)) (stringBody rest)
          | _ => stop .endInString []
        else
          match simpleEscape? e with
          | some c => prepend [c] (stringBody rest)
          | none => stop .invalidEscape rest
    else if b < 32 then stop .controlCharacter rest
    else prepend [b] (stringBody rest)

/-- A string after its opening quote.  Bytes that are no character are told of where the first of
them stands. -/
def string : Scan String := fun bs => do
  let (body, r) ← stringBody bs
  match Text.Utf8.toString? body with
  | some s => return (s, r)
  | none => stopAt .invalidCodePoint (bs.drop (Text.Utf8.soundLength bs))

end Courier.Json
