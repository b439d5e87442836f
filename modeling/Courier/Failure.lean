import Courier.Fault

/-!
Failures: how a request can fail.  The transport brought no response, or the response breaks the
contract of the service, or the service reports an error of its own.
-/

namespace Courier

/-- No response came. -/
structure TransportError where
  url : String
  reason : String
  deriving DecidableEq, Repr

/-- The ways in which a response can break the contract. -/
inductive Breach
  | wrongContentType
  | parseFailed
  | notAnObject
  | errorMapping
  | resultMapping
  | noResponse
  deriving DecidableEq, Repr

def Breach.name : Breach → String
  | wrongContentType => "wrong-content-type"
  | parseFailed => "parse-failure"
  | notAnObject => "response-not-an-object"
  | errorMapping => "error-object-mapping-failure"
  | resultMapping => "result-mapping-failure"
  | noResponse => "no-response-data"

/-- What is said of a breach unless there is more to say. -/
def Breach.description : Breach → String
  | wrongContentType => "Response is not json"
  | parseFailed => "Error while parsing json"
  | notAnObject => "Response is not a dictionary object"
  | errorMapping => "Mapping to error object did fail"
  | resultMapping => "Mapping to expected object did fail"
  | noResponse => "No response data received"

/-- A response that breaks the contract, with its text if there is one. -/
structure ServiceError where
  breach : Breach
  url : String
  response : Option String
  description : String := breach.description
  deriving DecidableEq, Repr

/-- An error that the service reports. -/
structure ApplicationError where
  description : String
  code : Int
  deriving DecidableEq, Repr

/-- How a request failed. -/
inductive Failure
  | transport (e : TransportError)
  | service (e : ServiceError)
  | application (e : ApplicationError)
  deriving DecidableEq, Repr

def TransportError.message (e : TransportError) : String := s!"연결 실패 ({e.url}): {e.reason}"

def ServiceError.message (e : ServiceError) : String :=
  s!"서비스 에러 [{e.breach.name}] {e.url}: {e.description}"

def ApplicationError.message (e : ApplicationError) : String :=
  s!"애플리케이션 에러 (code {e.code}): {e.description}"

namespace Failure

def message : Failure → String
  | transport e => e.message
  | service e => e.message
  | application e => e.message

def kindName : Failure → String
  | transport _ => "transport"
  | service _ => "service"
  | application _ => "application"

/-- The breach, if the contract was broken. -/
def breach? : Failure → Option Breach
  | service e => some e.breach
  | _ => none

/-- The code, if the service reports an error. -/
def code? : Failure → Option Int
  | application e => some e.code
  | _ => none

/-- The URL, unless the service reports an error. -/
def url? : Failure → Option String
  | transport e => some e.url
  | service e => some e.url
  | application _ => none

/-- The text of the response that broke the contract. -/
def response? : Failure → Option String
  | service e => e.response
  | _ => none

end Failure

end Courier
