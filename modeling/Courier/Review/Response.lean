import Courier.Entity.ErrorReport
import Courier.Http.Message
import Courier.Json.Reader
import Courier.Review.Basic
import Courier.Review.Processor
import Courier.Text.Quoted

/-!
The review of a response.  It has to be there, to say that it is JSON, to be JSON, and to be an
object, in this order.  With the status of success the processor makes a value of the object; with
any other status the object has to report an error.
-/

namespace Courier

open Json (Members)

namespace Review

variable {α : Type}

/-- The end of a review with a breach of the contract. -/
def breach (b : Breach) (url : String) (text : Option String) : Review α :=
  done (.error (.service { breach := b, url, response := text }))

/-- What is said of a panic without a text. -/
def unknownPanic : String := "알 수 없는 패닉"

/-- The end of a review in which the processor did not accept the object. -/
def unmapped (url description text : String) : Review α :=
  done (.error (.service { breach := .resultMapping, url, response := some text, description }))

/-- The review of an object that came with the status of success. -/
def success (url text : String) (processor : Processor α) (object : Members) : Review α :=
  ask (process (match processor object with
    | .accepted a => done (.ok a)
    | .refused f => unmapped url f.message text
    | .panicked message =>
      let message := message.getD unknownPanic
      log (.error s!"결과 처리기 패닉 ({url}): {message}")
        (unmapped url s!"결과 처리기 패닉: {message}" text)))

/-- The review of an object that came with another status. -/
def refusal (url text : String) (object : Members) : Review α :=
  ask (match ApplicationError.ofResponse object with
    | .ok e => done (.error (.application e))
    | .error f =>
      log (.debug s!"에러 객체 매핑 실패 ({url}): {f.message}") (breach .errorMapping url (some text)))

/-- The review of the value that the body of a response writes. -/
def value (url : String) (successStatus : UInt16) (processor : Processor α) (status : UInt16)
    (text : String) : Json → Review α
  | .obj object =>
    if status = successStatus then success url text processor object else refusal url text object
  | v =>
    log (.error s!"응답이 객체가 아님 ({url}): {v.typeName}") (breach .notAnObject url (some text))

/-- The review of a body that is said to be JSON. -/
def body (url : String) (successStatus : UInt16) (processor : Processor α)
    (response : Http.Response) : Review α :=
  let text := response.text
  log (.debug s!"응답 본문 ({url}): {text}") (match Json.parse response.body with
    | .error e =>
      log (.error s!"JSON 파싱 실패 ({url}): {e.message}")
        (log (.error text) (breach .parseFailed url (some text)))
    | .ok v => ask (value url successStatus processor response.status text v))

/-- The review of a response that has come. -/
def arrived (url : String) (successStatus : UInt16) (processor : Processor α)
    (response : Http.Response) : Review α :=
  if response.contentType? = some Http.jsonType then
    ask (body url successStatus processor response)
  else
    let shown := Text.quotedText (response.contentType?.getD "<none>")
    log (.error s!"응답 content type이 json이 아님 ({url}): {shown}")
      (log (.error response.text) (breach .wrongContentType url (some response.text)))

/-- The review of what came back from a URL. -/
def ofResponse (url : String) (successStatus : UInt16) (processor : Processor α) :
    Option Http.Response → Review α
  | none => ask (log (.error s!"응답 없음: {url}") (breach .noResponse url none))
  | some response => ask (arrived url successStatus processor response)

end Review

end Courier
