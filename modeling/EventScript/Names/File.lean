import EventScript.Names.Table
import EventScript.Project.TextFile
import EventScript.Toml.Parser

/-!
Name tables in files: TOML if the file's ending says so, else JSON.
-/
namespace EventScript

namespace NameTable

/-- Why a file holds no name table. -/
inductive FileFault where
  | unreadable (path : Path) (fault : DiskFault)
  | malformed (path : Path)
  | table (path : Path) (fault : Fault)

def FileFault.message : FileFault → Text
  | .unreadable path fault => "failed to read name table " ++ path.text ++ ": " ++ fault.message
  | .malformed path => "failed to parse name table " ++ path.text ++ ": " ++ malformedNote
  | .table path fault => path.text ++ ": " ++ fault.message

/-- Tables stored as TOML. -/
def Format.toml : Format Toml.Value where
  fields?
    | .table fields => some fields
    | _ => none
  text?
    | .str t => some t
    | _ => none
  display := Toml.Value.display

/-- The table that a file's text spells, or what is wrong with it; none if the text does not follow
the format of the file. -/
def ofText? (path : Path) (text : Text) : Option (Except Fault NameTable) :=
  if path.ending.toLowerAscii = ".toml" then (Toml.parse? text).map (ofStored Format.toml)
  else (Json.parse? text).map ofJson

/-- The name table in a file. -/
def load (disk : Disk) (path : Path) : Except FileFault NameTable :=
  match disk.readText? path with
  | .error fault => .error (.unreadable path fault)
  | .ok text? => match text?.bind (ofText? path) with
    | none => .error (.malformed path)
    | some (.error fault) => .error (.table path fault)
    | some (.ok table) => .ok table

end NameTable

end EventScript
