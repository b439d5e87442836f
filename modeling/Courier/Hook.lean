import Courier.Failure
import Courier.Trace

/-!
Hooks: what a client does with every failure before the caller hears of it.  A failure is logged
by its class and then given to each hook in the order of registration; a hook that panics does not
keep the failure from the others.
-/

namespace Courier

/-- What is done with failures.  A hook may end in a panic. -/
inductive Hook
  /-- acts on every failure -/
  | always (panics : Bool)
  /-- acts on the application errors of one code -/
  | onCode (code : Int) (panics : Bool)
  deriving DecidableEq, Repr

/-- What a hook is seen to do; hooks are counted from zero. -/
inductive HookEvent
  /-- a hook for every failure acts -/
  | told (hook : Nat) (failure : Failure)
  /-- a hook for a code acts -/
  | acted (hook : Nat) (error : ApplicationError)
  deriving DecidableEq, Repr

namespace Hook

/-- The record of a failure that has come in. -/
def arrival : Failure → List LogRecord
  | .application e =>
    [(LogRecord.info s!"애플리케이션 에러 수신: {e.description}").having "code" (.int e.code)]
  | .service e =>
    ((LogRecord.info s!"서비스 에러 수신: {e.description}").having "kind" (.str e.breach.name)).having
        "url" (.str e.url) ::
      (e.response.map fun text => LogRecord.debug s!"서비스 에러 응답 본문: {text}").toList
  | .transport e =>
    [(LogRecord.warn s!"연결 에러 수신: {e.reason}").having "url" (.str e.url)]

/-- The hook acts on the failure. -/
def actsOn : Hook → Failure → Bool
  | always _, _ => true
  | onCode code _, .application e => e.code == code
  | onCode _ _, _ => false

def panics : Hook → Bool
  | always p => p
  | onCode _ p => p

/-- What the hook does when it is given a failure, itself being the `i`-th. -/
def act (hook : Hook) (i : Nat) (failure : Failure) : Trace HookEvent :=
  match hook, failure with
  | always _, failure => [.event (.told i failure)]
  | onCode code _, .application e =>
    if e.code = code then
      [.log (.debug s!"애플리케이션 에러 코드 {code} 후크 실행"), .event (.acted i e)]
    else []
  | onCode _ _, _ => []

def panicked (failure : Failure) : LogRecord :=
  (LogRecord.error "에러 후크 실행 중 패닉 발생, 무시").having "kind" (.str failure.kindName)

/-- What the `i`-th hook does with a failure, its panic caught. -/
def call (hook : Hook) (i : Nat) (failure : Failure) : Trace HookEvent :=
  hook.act i failure ++
    if hook.actsOn failure && hook.panics then [.log (panicked failure)] else []

/-- The calls of hooks with a failure, in order: the number of each hook and what it does. -/
def calls (failure : Failure) (hooks : List Hook) : List (Nat × Trace HookEvent) :=
  hooks.mapIdx fun i hook => (i, hook.call i failure)

/-- What happens when a failure is handled. -/
def handle (hooks : List Hook) (failure : Failure) : Trace HookEvent :=
  (arrival failure).map .log ++ (calls failure hooks).flatMap (·.2)

def shown (hooks : List Hook) : String := s!"ErrorHandler \x7b hooks: {hooks.length} \x7d"

end Hook

end Courier
