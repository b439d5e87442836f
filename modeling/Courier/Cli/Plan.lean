import Courier.Cli.Arguments
import Courier.Endpoint
import Courier.Settings.Keeper
import Courier.Text.Space
import Courier.Text.Split

/-!
Plans: what the arguments of a command line ask for, under which settings and of which endpoint.
The settings come from a file, if one is named, and options of the command line go before it.  A
target that is not a whole URL is a path under the base that the settings give.
-/

namespace Courier.Cli

/-! ### Troubles -/

/-- Why a command line cannot be carried out. -/
inductive Trouble
  /-- the settings file cannot be used -/
  | unloaded (path : String) (fault : Fault)
  /-- the settings have a flaw -/
  | unsettled (fault : Fault)
  /-- a pair of the query without an equals sign -/
  | badQuery (text : String)
  /-- a header without a colon -/
  | badHeader (text : String)
  /-- data that is not JSON -/
  | badData (error : Json.Error)
  /-- the queue did not admit the request -/
  | notAdmitted
  | other (fault : Fault)
  deriving DecidableEq, Repr

namespace Trouble

def text : Trouble → String
  | unloaded path _ => s!"설정 로드 실패: {path}"
  | unsettled fault => s!"설정 검증 실패: {fault.message}"
  | badQuery text => s!"쿼리 형식은 key=value: {text}"
  | badHeader text => s!"헤더 형식은 'Name: value': {text}"
  | badData _ => "요청 본문이 올바른 JSON이 아님"
  | notAdmitted => "요청 큐 입장 거부"
  | other fault => fault.message

/-- What is said of its cause, if there is more to say. -/
def cause? : Trouble → Option String
  | unloaded _ fault => some fault.message
  | badData error => some error.message
  | _ => none

/-- The texts of a trouble, the cause last. -/
def texts (t : Trouble) : List String := t.text :: t.cause?.toList

def indent (s : String) : String :=
  String.ofList (s.toList.flatMap fun c => if c = '\n' then '\n' :: List.replicate 4 ' ' else [c])

def report (t : Trouble) : String :=
  match t.cause? with
  | none => s!"Error: {t.text}\n"
  | some cause => s!"Error: {t.text}\n\nCaused by:\n    {indent cause}\n"

end Trouble

/-! ### Settings -/

/-- The settings with those that options give in the place of their own. -/
def Options.override (o : Options) (s : Settings) : Settings :=
  { s with
    baseUrl := o.baseUrl.or s.baseUrl
    timeoutMs := o.timeoutMs.getD s.timeoutMs
    maxConcurrent := o.maxConcurrent.or s.maxConcurrent
    successStatus := o.successStatus.getD s.successStatus }

/-- What comes of reading settings, perhaps from a file. -/
structure Loaded (α : Type) where
  result : Except Trouble α
  disk : Disk
  records : List LogRecord := []

/-- What is loaded put to further use. -/
def Loaded.andThen {α β : Type} (l : Loaded α) (f : α → Except Trouble β) : Loaded β :=
  ⟨l.result.bind f, l.disk, l.records⟩

/-- The settings in the file that options name, which is made if there is none; the default
settings if no file is named. -/
def Options.load (o : Options) (d : Disk) : Loaded Settings :=
  match o.config with
  | none => ⟨.ok {}, d, []⟩
  | some path =>
    let done := Settings.Archive.openFile { disk := d } path
    let result := (done.result.map done.archive.get).mapError (Trouble.unloaded path)
    ⟨result, done.archive.disk, done.records⟩

/-- The settings, if they have no flaw. -/
def checked (s : Settings) : Except Trouble Settings :=
  (s.validate.map fun _ => s).mapError Trouble.unsettled

def Options.settings (o : Options) (d : Disk) : Loaded Settings :=
  (o.load d).andThen fun s => checked (o.override s)

/-! ### Endpoints -/

/-- A whole URL of the web, as one sees by its front. -/
def isWhole (target : String) : Bool :=
  "http://".toList.isPrefixOf target.toList || "https://".toList.isPrefixOf target.toList

/-- The endpoint of a method at a target, which is under the base unless it is a whole URL. -/
def aim (method : Http.Method) (base : Option String) (target : String) : Endpoint :=
  match base with
  | some base => if isWhole target then { method, url := target } else .under method base target
  | none => { method, url := target }

/-- The endpoint with the pair that a text writes added to its query. -/
def addQuery (e : Endpoint) (text : String) : Except Trouble Endpoint :=
  match Text.splitOnce '=' text.toList with
  | some (key, value) => .ok (e.withQuery (String.ofList key) (String.ofList value))
  | none => .error (.badQuery text)

/-- The endpoint with the header that a text writes. -/
def addHeader (e : Endpoint) (text : String) : Except Trouble Endpoint :=
  match Text.splitOnce ':' text.toList with
  | some (name, value) =>
    .ok (e.withHeader (Text.trim (String.ofList name)) (Text.trim (String.ofList value)))
  | none => .error (.badHeader text)

/-- The endpoint with data as its body, which has to be JSON. -/
def addData (e : Endpoint) : Option String → Except Trouble Endpoint
  | none => .ok e
  | some text =>
    match Json.parseString text with
    | .ok _ => .ok (e.withJsonText (Text.Utf8.ofString text))
    | .error error => .error (.badData error)

def Arguments.endpoint (a : Arguments) (s : Settings) : Except Trouble Endpoint := do
  let method ← (Http.Method.parse a.method).mapError Trouble.other
  let e ← a.options.queries.foldlM addQuery (aim method s.baseUrl a.target)
  let e ← a.options.headers.foldlM addHeader e
  addData e a.options.data

/-! ### Plans -/

/-- The settings of a request and the endpoint that it goes to. -/
structure Plan where
  settings : Settings
  endpoint : Endpoint
  deriving DecidableEq, Repr

def Arguments.plan (a : Arguments) (d : Disk) : Loaded Plan :=
  (a.options.settings d).andThen fun s => (a.endpoint s).map fun e => ⟨s, e⟩

end Courier.Cli
