import Courier.Disk.Basic
import Courier.Settings.Basic

/-!
Settings in a file.  What is read has to be valid; a file that is not there is no error.  What is
written goes to a file beside the place, which then takes the place.
-/

namespace Courier.Settings

open Text.Utf8 (ofString)

/-- The settings in a file; none if there is no file. -/
def read (d : Disk) (path : String) : Except Fault (Option Settings) :=
  match d.readText path with
  | .error .notFound => .ok none
  | .error c => .error (.config s!"설정 파일 읽기 실패: {path}: {c.message}")
  | .ok text =>
    match ofText text with
    | .error e => .error (.config s!"설정 파일 파싱 실패: {path}: {e.message}")
    | .ok s =>
      match s.validate with
      | .error f => .error f
      | .ok () => .ok (some s)

/-- The path of the file to which settings are written first. -/
def stagingPath (path : String) : String := Path.withExtension path "json.tmp"

/-- The directory in which a file is to stand made; the working directory is there. -/
def prepare (d : Disk) (path : String) : Except Fault Unit × Disk :=
  match Path.parent? path with
  | none => (.ok (), d)
  | some dir =>
    if dir = "" then (.ok (), d)
    else
      match d.createDirectories dir with
      | (.ok (), d) => (.ok (), d)
      | (.error c, d) => (.error (.config s!"설정 디렉토리 생성 실패: {dir}: {c.message}"), d)

/-- The fault of a file that could not be written. -/
def unsaved (path : String) (c : Disk.Cause) : Fault :=
  .config s!"설정 파일 저장 실패: {path}: {c.message}"

/-- A text written to the file beside the place, and moved to the place.  If it cannot be moved
it stays beside it. -/
def place (d : Disk) (path : String) (text : Text.Bytes) : Except Fault Unit × Disk :=
  match d.write (stagingPath path) text with
  | .error c => (.error (unsaved path c), d)
  | .ok d =>
    match d.rename (stagingPath path) path with
    | .error c => (.error (unsaved path c), d)
    | .ok d => (.ok (), d)

def save (s : Settings) (d : Disk) (path : String) : Except Fault Unit × Disk :=
  match prepare d path with
  | (.error f, d) => (.error f, d)
  | (.ok (), d) => place d path (ofString s.pretty)

end Courier.Settings
