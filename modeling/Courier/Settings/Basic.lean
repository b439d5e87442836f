import Courier.Fault
import Courier.Json.Direct

/-!
The settings of a client: the base of its URLs, the time it waits, how many requests it runs at
once, what it calls itself, and the status that counts as success.  Every field has a default, so
that a file may leave any of them out.
-/

namespace Courier

/-- The settings of a client. -/
structure Settings where
  baseUrl : Option String := none
  timeoutMs : UInt64 := 30000
  maxConcurrent : Option UInt64 := none
  userAgent : String := "reqflow/0.1.0"
  successStatus : UInt16 := 200
  deriving DecidableEq, Repr, Inhabited

namespace Settings

/-! ### Validity -/

/-- Why settings cannot be used. -/
inductive Flaw
  | noTime
  | noConcurrency
  | status (code : UInt16)
  deriving DecidableEq, Repr

def Flaw.fault : Flaw → Fault
  | noTime => .validation "request_timeout_ms" "0보다 커야 합니다"
  | noConcurrency => .validation "max_concurrent_requests" "0보다 커야 합니다"
  | status code => .validation "success_status" s!"유효하지 않은 상태 코드: {code.toNat}"

def flaw? (s : Settings) : Option Flaw :=
  if s.timeoutMs = 0 then some .noTime
  else if s.maxConcurrent = some 0 then some .noConcurrency
  else if 100 ≤ s.successStatus ∧ s.successStatus ≤ 599 then none
  else some (.status s.successStatus)

/-- The settings have no flaw. -/
def validate (s : Settings) : Except Fault Unit :=
  match s.flaw? with
  | none => .ok ()
  | some f => .error f.fault

/-- The time to wait in seconds and milliseconds. -/
def timeout (s : Settings) : Nat × Nat := (s.timeoutMs.toNat / 1000, s.timeoutMs.toNat % 1000)

/-! ### Text -/

/-- The members of the settings, in the order in which they are written. -/
def members (s : Settings) : List (String × Json) :=
  [("base_url", .optStr s.baseUrl), ("request_timeout_ms", .nat s.timeoutMs.toNat),
    ("max_concurrent_requests", s.maxConcurrent.elim .null fun n => .nat n.toNat),
    ("user_agent", .str s.userAgent), ("success_status", .nat s.successStatus.toNat)]

def compact (s : Settings) : String := Json.compact (.obj s.members)

def pretty (s : Settings) : String := Json.pretty (.obj s.members)

open Json.Shape (defaulting) in
/-- The shape of what is read; every field has a default. -/
def shape : Json.Shape :=
  let standard : Settings := {}
  .record "NetworkConfig"
    [defaulting "base_url" .null (.optional .text),
      defaulting "request_timeout_ms" (.nat standard.timeoutMs.toNat) .unsigned64,
      defaulting "max_concurrent_requests" .null (.optional .count),
      defaulting "user_agent" (.str standard.userAgent) .text,
      defaulting "success_status" (.nat standard.successStatus.toNat) .unsigned16]

/-- The settings that a value of the shape writes. -/
def ofShaped (v : Json) : Option Settings := do
  return {
    baseUrl := ← (← v.member? "base_url").optional? Json.str?
    timeoutMs := .ofNat (← (← v.member? "request_timeout_ms").nat?)
    maxConcurrent := (← (← v.member? "max_concurrent_requests").optional? Json.nat?).map .ofNat
    userAgent := ← (← v.member? "user_agent").str?
    successStatus := .ofNat (← (← v.member? "success_status").nat?) }

/-- The settings that a text holds; fields that it leaves out have their defaults. -/
def ofText (bs : Text.Bytes) : Except Json.Error Settings :=
  (Json.readWith shape.scan bs).map fun v => (ofShaped v).getD {}

end Settings

end Courier
