import Courier.Cli.Arguments

/-!
What the command line says of itself: its help, its version, and what is wrong with arguments.
-/

namespace Courier.Cli

def programName : String := "reqflow"

def version : String := "0.1.0"

def usage : String := s!"Usage: {programName} [OPTIONS] <METHOD> <TARGET>"

def helpText : String := s!"{usage}

Arguments:
  <METHOD>  HTTP 메서드 (GET, POST, PUT, PATCH, DELETE, HEAD, OPTIONS)
  <TARGET>  절대 URL 또는 base URL 기준 경로

Options:
  -c, --config <CONFIG>                  설정 파일 경로
  -b, --base-url <BASE_URL>              base URL 지정
      --timeout-ms <TIMEOUT_MS>          요청 타임아웃 (밀리초)
      --max-concurrent <MAX_CONCURRENT>  동시 실행 상한
      --success-status <SUCCESS_STATUS>  성공으로 취급할 상태 코드
  -d, --data <DATA>                      JSON 요청 본문
  -q, --query <QUERIES>                  쿼리 파라미터 (key=value, 반복 가능)
  -H, --header <HEADERS>                 요청 헤더 (Name: value, 반복 가능)
  -v, --verbose                          디버그 로그 출력
  -h, --help                             Print help
  -V, --version                          Print version
"

def versionText : String := s!"{programName} {version}\n"

def Misuse.text : Misuse → String
  | missingArgument => "the following required arguments were not provided"
  | unknownArgument => "unexpected argument found"
  | missingValue => "a value is required but none was supplied"
  | badValue => "invalid value"
  | needlessValue => "unexpected value for an option that takes none"
  | repeated => "an argument cannot be used multiple times"

def Misuse.report (m : Misuse) : String := s!"error: {m.text}\n\n{usage}\n"

end Courier.Cli
