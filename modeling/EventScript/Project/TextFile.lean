import EventScript.Project.Disk
import EventScript.Text.Utf8

/-!
Text files, in UTF-8. A text replaces a file as a whole: it goes to a temporary file beside it
first, which then takes the file's place.
-/
namespace EventScript

/-- What is said of a text that does not follow its format. -/
def malformedNote : Text := "malformed text"

namespace Disk

/-- The text of a file with its line ends unified, if there is one: the bytes may spell none, and a
path that is none has none. -/
def readText? (disk : Disk) (path : Path) : Except DiskFault (Option Text) :=
  match disk.read path with
  | .error (.refused fault) => .error fault
  | .error (.noPath _) => .ok none
  | .ok bytes => .ok ((Text.decodeUtf8? bytes).map Text.unifyNewlines)

/-- Why a text is not written. -/
inductive WriteFault where
  | disk (fault : DiskFault)
  | noPath (fault : Path.Fault)
  | noFileName (path : Path)
  | notEncodable (run : SurrogateRun)

/-- The disk with a text in a file. A text that has no bytes leaves the file empty. -/
def writeText (disk : Disk) (path : Path) (text : Text) : Disk × Except WriteFault Unit :=
  match disk.write path ((Text.encodeUtf8? text).getD []) with
  | .error (.refused fault) => (disk, .error (.disk fault))
  | .error (.noPath fault) => (disk, .error (.noPath fault))
  | .ok written => match SurrogateRun.find? (fun _ => true) text with
    | some run => (written, .error (.notEncodable run))
    | none => (written, .ok ())

/-- The disk with a text in place of a file. If the disk refuses, the temporary file is gone. -/
def replaceText (disk : Disk) (path : Path) (text : Text) : Disk × Except WriteFault Unit :=
  match path.extend? ".tmp" with
  | none => (disk, .error (.noFileName path))
  | some temporary => match disk.writeText temporary text with
    | (left, .error (.disk fault)) => (left.remove temporary, .error (.disk fault))
    | (left, .error fault) => (left, .error fault)
    | (written, .ok ()) => match written.rename temporary path with
      | .error fault => (written.remove temporary, .error (.disk fault))
      | .ok replaced => (replaced, .ok ())

end Disk

end EventScript
