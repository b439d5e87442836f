import Courier.Json.Mismatch
import Courier.Json.Reader

/-!
Faults: what can go wrong with the data of a request, apart from its exchange with a server.
-/

namespace Courier

/-- What went wrong with data. -/
inductive Fault
  /-- text that is not the JSON wanted -/
  | unreadable (e : Json.Error)
  /-- a JSON value that is not of the shape wanted -/
  | mismatched (m : Json.Mismatch)
  | config (reason : String)
  | validation (field : String) (reason : String)
  | invalidEndpoint (reason : String)
  | internal (reason : String)
  | io (reason : String)
  deriving DecidableEq, Repr

namespace Fault

def message : Fault → String
  | unreadable e => s!"직렬화 에러: {e.message}"
  | mismatched m => s!"직렬화 에러: {m.message}"
  | config reason => s!"설정 에러: {reason}"
  | validation field reason => s!"유효성 검증 실패: {field}: {reason}"
  | invalidEndpoint reason => s!"잘못된 엔드포인트: {reason}"
  | internal reason => s!"내부 에러: {reason}"
  | io reason => s!"I/O 에러: {reason}"

/-- A field that an entity has to have is missing. -/
def missing (field : String) : Fault := .validation field s!"Object without {field} is not valid"

end Fault

end Courier
