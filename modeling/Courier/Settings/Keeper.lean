import Courier.Log
import Courier.Settings.File

/-!
Keepers: settings kept in a file, with a copy in memory.  Clones of a keeper share the copy;
keepers opened on their own do not, even if they keep the same file.  The copy changes only when
reading or writing the file succeeded.
-/

namespace Courier.Settings

/-- What keeps settings: the path of the file, and the number of the copy in memory. -/
structure Keeper where
  path : String
  cell : Nat
  deriving DecidableEq, Repr

/-- The disk and the copies in memory. -/
structure Archive where
  disk : Disk
  memory : List Settings := []
  deriving Repr

/-- What an operation comes to. -/
structure Archive.Done (α : Type) where
  result : Except Fault α
  archive : Archive
  records : List LogRecord := []

namespace Archive

def loaded (path : String) : LogRecord := .debug s!"설정 파일 로드: {path}"

/-- The copy that a keeper has. -/
def get (a : Archive) (k : Keeper) : Settings := (a.memory[k.cell]?).getD {}

/-- The archive with another copy for a keeper and its clones. -/
def replace (a : Archive) (k : Keeper) (s : Settings) : Archive :=
  { a with memory := a.memory.set k.cell s }

/-- A new keeper with a copy of its own. -/
def keep (a : Archive) (path : String) (s : Settings) : Keeper × Archive :=
  (⟨path, a.memory.length⟩, { a with memory := a.memory ++ [s] })

/-- A keeper of the settings in a file; if there is no file it is made with the default ones. -/
def openFile (a : Archive) (path : String) : Done Keeper :=
  match read a.disk path with
  | .error f => ⟨.error f, a, []⟩
  | .ok (some s) =>
    let (k, a) := a.keep path s
    ⟨.ok k, a, [loaded path]⟩
  | .ok none =>
    match save {} a.disk path with
    | (.error f, disk) => ⟨.error f, { a with disk }, []⟩
    | (.ok (), disk) =>
      let (k, a) := { a with disk }.keep path {}
      ⟨.ok k, a, [.info s!"기본 설정 파일 생성: {path}"]⟩

/-- The settings of a keeper written to its file. -/
def write (a : Archive) (k : Keeper) (s : Settings) : Except Fault Unit × Archive :=
  match save s a.disk k.path with
  | (r, disk) => (r, { a with disk })

/-- Other settings for a keeper: they have to be valid, then they are written, then the copy is
replaced. -/
def update (a : Archive) (k : Keeper) (s : Settings) : Done Unit :=
  match s.validate with
  | .error f => ⟨.error f, a, []⟩
  | .ok () =>
    match a.write k s with
    | (.error f, a) => ⟨.error f, a, []⟩
    | (.ok (), a) => ⟨.ok (), a.replace k s, [.debug s!"설정 저장: {k.path}"]⟩

def updateWith (a : Archive) (k : Keeper) (edit : Settings → Settings) : Done Settings :=
  let s := edit (a.get k)
  let d := a.update k s
  ⟨d.result.map fun _ => s, d.archive, d.records⟩

/-- The settings of a keeper as they are in its file now. -/
def reload (a : Archive) (k : Keeper) : Done Unit :=
  match read a.disk k.path with
  | .error f => ⟨.error f, a, []⟩
  | .ok none => ⟨.error (.config s!"설정 파일이 사라짐: {k.path}"), a, []⟩
  | .ok (some s) =>
    ⟨.ok (), a.replace k s, [loaded k.path, .info s!"설정 다시 로드: {k.path}"]⟩

end Archive

/-! ### The place of the settings file -/

/-- The variables of the environment that tell where settings are kept. -/
structure Environment where
  home : Option String := none
  configHome : Option String := none
  deriving DecidableEq, Repr

namespace Environment

def fileName : String := "config.json"

def directoryName : String := "reqflow"

/-- The directory under which settings are kept, if the environment tells it; empty variables
count as missing. -/
def base? (e : Environment) : Option String :=
  (e.configHome.filter (· != "")).or ((e.home.filter (· != "")).map (Path.join · ".config"))

def directory (e : Environment) : String × List LogRecord :=
  match e.base? with
  | some base => (Path.join base directoryName, [])
  | none => (Path.join "." directoryName, [.warn "설정 디렉토리를 결정할 수 없어 현재 디렉토리 사용"])

def file (e : Environment) : String × List LogRecord :=
  (Path.join e.directory.1 fileName, e.directory.2)

end Environment

end Courier.Settings
