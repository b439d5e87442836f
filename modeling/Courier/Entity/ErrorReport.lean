import Courier.Entity.Basic
import Courier.Failure

/-!
The error object of a service: a description and a code under the key `error` of a response.  It
is read leniently from a response, where a field of the wrong type counts as missing, and strictly
as an entity.  Only one with a description and a code becomes an application error.
-/

namespace Courier

open Json (Members)
open Json.Shape (possible)

/-- What is read from an error object. -/
structure ErrorReport where
  description : Option String
  code : Option Int
  deriving DecidableEq, Repr

namespace ErrorReport

/-- The key of the error object in a response. -/
def key : String := "error"

def minCode : Int := -9223372036854775808

def maxCode : Int := 9223372036854775807

/-- The nearest integer of 64 bits. -/
def clamp64 (i : Int) : Int := max minCode (min i maxCode)

/-- The code that a number gives: an integer of 64 bits is itself, all other numbers count as
binary64 numbers, of which one without a fraction gives the nearest integer of 64 bits. -/
def codeOf : Json.Numeral → Option Int
  | .int i =>
    if minCode ≤ i ∧ i ≤ maxCode then some i
    else (Number.Binary64.ofInt i).toInt?.map clamp64
  | .real x => x.toInt?.map clamp64

/-- The error object of a response, fields of the wrong type left out. -/
def ofResponse (response : Members) : ErrorReport :=
  match (response.get? key).bind Json.members? with
  | none => ⟨none, none⟩
  | some error =>
    { description := (error.get? "description").bind Json.str?
      code := ((error.get? "code").bind Json.num?).bind codeOf }

/-- A field that an error object has to have is missing. -/
def missing (field : String) : Fault :=
  .validation field s!"Error object without {field} is not valid. Mapping failed."

/-- The description is there and not empty, and the code is there. -/
def validate (r : ErrorReport) : Except Fault Unit :=
  match r.description, r.code with
  | none, _ => .error (missing "description")
  | some d, c =>
    if d = "" then .error (missing "description")
    else if c.isNone then .error (missing "code")
    else .ok ()

/-- The application error of a valid error object. -/
def toApplicationError (r : ErrorReport) : Except Fault ApplicationError := do
  r.validate
  match r.description, r.code with
  | some description, some code => return ⟨description, code⟩
  | _, _ => throw (.internal "검증된 에러 객체에 필드 누락")

instance : Entity ErrorReport where
  label := "ErrorModel"
  toJson r := .object [("description", .optStr r.description),
    ("code", r.code.elim .null Json.int)]
  shape := .record "ErrorModel"
    [possible "description" .text, possible "code" .signed64]
  ofShaped v := do
    return ⟨← (← v.member? "description").optional? Json.str?,
      ← (← v.member? "code").optional? Json.int?⟩
  validate := validate

end ErrorReport

/-- The application error that a response reports. -/
def ApplicationError.ofResponse (response : Members) : Except Fault ApplicationError :=
  (ErrorReport.ofResponse response).toApplicationError

end Courier
