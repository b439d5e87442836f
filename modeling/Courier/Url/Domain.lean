import Courier.Text.Printable
import Courier.Url.Address
import Courier.Url.Domain.Composition
import Courier.Url.Domain.Direction
import Courier.Url.Domain.Mapping
import Courier.Url.Domain.Marks
import Courier.Url.Punycode

/-!
Domain names in their ASCII form.  Characters are mapped and composed, labels outside ASCII are
written in Punycode after the prefix `xn--`, and labels that already have the prefix have to be
written forms of valid labels.
-/

namespace Courier.Url.Domain

/-! ### Characters -/

/-- ASCII characters that no name holds. -/
def denied (c : Char) : Bool :=
  c.toNat ≤ 0x20 || c.toNat == 0x7F ||
    ['%', '#', '/', ':', '<', '>', '?', '@', '[', '\\', ']', '^', '|'].contains c

/-- Characters outside ASCII that have a printed form and yet stand in no name: fillers, forms that
hold a full stop, and signs that describe other characters. -/
def excluded : List (Nat × Nat) :=
  [(0x115F, 0x1160), (0x17B4, 0x17B5), (0x2024, 0x2026), (0x2488, 0x249B), (0x2FF0, 0x2FFF),
    (0x3164, 0x3164), (0x31EF, 0x31EF), (0x33C2, 0x33C2), (0x33C7, 0x33C7), (0x33D8, 0x33D8),
    (0xFE12, 0xFE12), (0xFE19, 0xFE19), (0xFE30, 0xFE30), (0xFE52, 0xFE52), (0xFFA0, 0xFFA0),
    (0xFFFC, 0xFFFD), (0x1F100, 0x1F100)]

/-- The characters that join or part the letters beside them. -/
def isJoiner (c : Char) : Bool := c.toNat == 0x200C || c.toNat == 0x200D

/-- Whether a character may stand in a name. -/
def allowed (c : Char) : Bool :=
  if c.toNat < 0x80 then !denied c
  else
    isJoiner c ||
      (!Text.Printable.inRanges Text.Printable.formless c.toNat &&
        !excluded.any fun r => r.1 ≤ c.toNat && c.toNat ≤ r.2)

def isAscii (c : Char) : Bool := c.toNat < 0x80

/-! ### Labels -/

/-- Every joiner follows a mark that suppresses a vowel. -/
def joinersHold : (before : Option Char) → List Char → Bool
  | _, [] => true
  | before, c :: cs =>
    (!isJoiner c || before.any fun b => Composition.classOf b.toNat == 9) &&
      joinersHold (some c) cs

/-- Whether a label in mapped and composed form is valid. -/
def labelValid (label : List Char) : Bool :=
  !label.head?.any Marks.isMark && joinersHold none label

def punycodeMark : List Char := ['x', 'n', '-', '-']

/-- The label that a written label denotes, none if it is not written as it has to be. -/
def readLabel? (label : List Char) : Option (List Char) :=
  if punycodeMark.isPrefixOf label then do
    let cs ← Punycode.decode? (label.drop 4)
    if label.all isAscii && cs.any (!isAscii ·) && cs.all allowed &&
        cs.flatMap Mapping.apply == cs && Composition.normalize cs == cs && labelValid cs then
      some cs
    else none
  else if labelValid label then some label
  else none

def writeLabel (label : List Char) : List Char :=
  if label.all isAscii then label else punycodeMark ++ Punycode.encode label

/-! ### Names -/

/-- The ASCII form of a name that is not written in plain ASCII. -/
def mappedToAscii? (cs : List Char) : Option (List Char) := do
  let mapped := cs.flatMap Mapping.apply
  if !mapped.all allowed then none
  let labels ← (Address.splitOn '.' (Composition.normalize mapped)).mapM readLabel?
  let right := labels.any fun l => l.any fun c => (Direction.ofChar c).isRight
  if right && !labels.all Direction.labelHolds then none
  return ['.'].intercalate (labels.map writeLabel)

/-- Whether a name is ASCII and has no label in Punycode. -/
def isPlain (cs : List Char) : Bool :=
  cs.all isAscii &&
    !(Address.splitOn '.' (cs.map Char.toLower)).any fun l => punycodeMark.isPrefixOf l

/-- The ASCII form of a name, in small letters. -/
def toAscii? (cs : List Char) : Option (List Char) :=
  if isPlain cs then
    let cs := cs.map Char.toLower
    if cs.any denied then none else some cs
  else mappedToAscii? cs

end Courier.Url.Domain
