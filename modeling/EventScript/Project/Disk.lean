import EventScript.Json.Basic
import EventScript.Project.Path
import EventScript.Text.Quoted
import EventScript.Text.Numeral

/-!
Files and directories as a value. The root, the current directory and those it lies in are always
there; below them a path leads to a file, to a directory or nowhere. Each operation either fails,
with the reason and the path it was asked for, or gives the disk it leaves.
-/
namespace EventScript

inductive DiskNode where
  | file (bytes : List UInt8)
  | directory
  deriving DecidableEq

/-- What is found under each path. Two dots stand in a key only at its start. -/
structure Disk where
  nodes : List (Path × DiskNode) := []

/-- Why an operation on files fails. -/
inductive DiskReason where
  | missing
  | busy
  | notDirectory
  | isDirectory
  | tooLong
  deriving DecidableEq

def DiskReason.number : DiskReason → Nat
  | .missing => 2
  | .busy => 16
  | .notDirectory => 20
  | .isDirectory => 21
  | .tooLong => 36

def DiskReason.text : DiskReason → String
  | .missing => "No such file or directory"
  | .busy => "Device or resource busy"
  | .notDirectory => "Not a directory"
  | .isDirectory => "Is a directory"
  | .tooLong => "File name too long"

/-- A failed operation on one path, or from one path to another. -/
structure DiskFault where
  reason : DiskReason
  path : Path
  target : Option Path := none

def DiskFault.message (fault : DiskFault) : Text :=
  let paths : Text := match fault.target with
    | none => fault.path.text.display
    | some target => fault.path.text.display ++ " -> " ++ target.text.display
  "[Errno " ++ Text.ofNat fault.reason.number ++ "] " ++ Text.ofString fault.reason.text ++ ": " ++
    paths

namespace Disk

/-- Why nothing comes of an operation: the disk refuses it, or the path is none. -/
inductive Failure where
  | refused (fault : DiskFault)
  | noPath (fault : Path.Fault)

/-- The most bytes that a segment of a path may have. -/
def segmentLimit : Nat := 255

/-- The most bytes that a path may have. -/
def pathLimit : Nat := 4095

/-- What stands at a place. -/
def node? (disk : Disk) (place : Path) : Option DiskNode :=
  if place.isAbove then some .directory else disk.nodes.lookup place

/-- The place that segments lead to from a directory. -/
def walk (disk : Disk) (place : Path) : List Text → Except DiskReason Path
  | [] => .ok place
  | segment :: rest =>
    match disk.node? place with
    | none => .error .missing
    | some (.file _) => .error .notDirectory
    | some .directory =>
      if segmentLimit < Path.size segment then .error .tooLong
      else disk.walk (place.child segment) rest

/-- The place that a path leads to. What stands there may be missing, the way to it may not. There
is one root, however many slashes a path starts with. -/
def resolve (disk : Disk) (path : Path) : Except DiskReason Path :=
  if pathLimit < Path.size path.text then .error .tooLong
  else disk.walk ⟨min path.slashes 1, []⟩ path.segments

/-- The place that a path leads to, for an operation on that path. -/
def locate (disk : Disk) (path : Path) : Except Failure Path :=
  match path.check with
  | .error fault => .error (.noPath fault)
  | .ok () => match disk.resolve path with
    | .error reason => .error (.refused { reason, path })
    | .ok place => .ok place

/-- The disk with something put at a place. -/
def put (disk : Disk) (place : Path) (node : DiskNode) : Disk :=
  ⟨insertPair place node disk.nodes⟩

/-- The disk without what stood at a place. -/
def erase (disk : Disk) (place : Path) : Disk := ⟨disk.nodes.filter fun entry => entry.1 ≠ place⟩

/-- The disk with a directory at a path, and those it lies in. -/
def withDirectory (disk : Disk) (path : Path) : Disk :=
  (List.range path.segments.length).foldl
    (fun disk i => disk.put { path with segments := path.segments.take (i + 1) } .directory) disk

/-- The disk with a file at a path, and the directories it lies in. -/
def withFile (disk : Disk) (path : Path) (bytes : List UInt8) : Disk :=
  (disk.withDirectory { path with segments := path.segments.dropLast }).put path (.file bytes)

/-- Whether a path leads to something. That it does not lead anywhere is an answer too, but a path
that is too long gets none. -/
def contains (disk : Disk) (path : Path) : Except DiskFault Bool :=
  match disk.locate path with
  | .ok place => .ok (disk.node? place).isSome
  | .error (.refused fault) => if fault.reason = .tooLong then .error fault else .ok false
  | .error (.noPath _) => .ok false

/-- The bytes of a file. -/
def read (disk : Disk) (path : Path) : Except Failure (List UInt8) := do
  let place ← disk.locate path
  match disk.node? place with
  | none => .error (.refused { reason := .missing, path })
  | some .directory => .error (.refused { reason := .isDirectory, path })
  | some (.file bytes) => .ok bytes

/-- The disk with the bytes of a file replaced, or with a new file. -/
def write (disk : Disk) (path : Path) (bytes : List UInt8) : Except Failure Disk := do
  let place ← disk.locate path
  match disk.node? place with
  | some .directory => .error (.refused { reason := .isDirectory, path })
  | _ => .ok (disk.put place (.file bytes))

/-- The disk without a file; nothing happens if there is none. -/
def remove (disk : Disk) (path : Path) : Disk :=
  match disk.resolve path with
  | .error _ => disk
  | .ok place => match disk.node? place with
    | some (.file _) => disk.erase place
    | _ => disk

/-- The disk with a file moved to another path, where it replaces the file that was there. -/
def rename (disk : Disk) (path target : Path) : Except DiskFault Disk :=
  let fail (reason : DiskReason) : Except DiskFault Disk :=
    .error { reason, path, target := some target }
  match disk.resolve path, disk.resolve target with
  | .error reason, _ => fail reason
  | .ok _, .error reason => fail reason
  | .ok place, .ok targetPlace =>
    if target.name = ".." ∨ target.segments.isEmpty then fail .busy
    else match disk.node? place, disk.node? targetPlace with
      | none, _ => fail .missing
      | some _, some .directory => fail .isDirectory
      | some node, _ => .ok ((disk.erase place).put targetPlace node)

/-- The files of a disk. -/
def files (disk : Disk) : List (Path × List UInt8) :=
  disk.nodes.filterMap fun (place, node) => match node with
    | .file bytes => some (place, bytes)
    | .directory => none

/-- The files that are new or different since an earlier state of the disk. -/
def changes (before after : Disk) : List (Path × List UInt8) :=
  after.files.filter fun (place, bytes) => before.nodes.lookup place ≠ some (.file bytes)

end Disk

end EventScript
