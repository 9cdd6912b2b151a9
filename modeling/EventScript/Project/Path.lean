import EventScript.Text.Utf8

/-!
File paths: segments between slashes. Empty segments and single dots mean nothing and are dropped;
two dots are kept, since what they mean depends on the files.
-/
namespace EventScript

structure Path where
  /-- The slashes at the start: none if the path is relative, else one or two. -/
  slashes : Nat := 0
  segments : List Text := []
  deriving DecidableEq

namespace Path

/-- The path that a text spells. Two slashes at the start are kept, more of them are one. -/
def parse (t : Text) : Path where
  slashes := match (t.takeWhile fun (c : CodePoint) => c = '/').length with
    | 0 => 0
    | 2 => 2
    | _ => 1
  segments := (Text.splitAt '/' t).filter fun segment => ¬segment.isEmpty ∧ segment ≠ "."

/-- A path as text; the relative path without segments is a dot. -/
def text (path : Path) : Text :=
  if path.slashes = 0 ∧ path.segments.isEmpty then "."
  else List.replicate path.slashes (CodePoint.ofChar '/') ++ Text.join "/" path.segments

/-- The last segment, empty if there is none. -/
def name (path : Path) : Text := path.segments.getLast?.getD []

/-- A file name cut before its last dot, if something stands on both sides of that dot. -/
def splitName (name : Text) : Text × Text :=
  let ending := (name.reverse.takeWhile fun (c : CodePoint) => c ≠ '.').reverse
  let stem := name.take (name.length - ending.length - 1)
  if stem.isEmpty ∨ ending.isEmpty then (name, []) else (stem, name.drop stem.length)

/-- The last segment without its ending. -/
def stem (path : Path) : Text := (splitName path.name).1

/-- The ending of the last segment, dot included. -/
def ending (path : Path) : Text := (splitName path.name).2

/-- Whether a path has no other segments than two dots. -/
def isAbove (path : Path) : Bool := path.segments.all fun segment => segment = ".."

/-- The path one level up. Above the root there is only the root; the levels above the current
directory have no names, so two dots stand for each of them. -/
def parent (path : Path) : Path :=
  if ¬path.isAbove then { path with segments := path.segments.dropLast }
  else if path.slashes = 0 then { path with segments := path.segments ++ [Text.ofString ".."] }
  else path

/-- The path of something in a directory. -/
def child (path : Path) (segment : Text) : Path :=
  if segment = ".." then path.parent else { path with segments := path.segments ++ [segment] }

/-- The path with something added to its last segment. -/
def extend? (path : Path) (suffix : Text) : Option Path :=
  if path.name.isEmpty then none
  else some { path with segments := path.segments.dropLast ++ [path.name ++ suffix] }

/-- Whether a surrogate stands for a byte of a file name that is no UTF-8. -/
def isRawByte (c : CodePoint) : Bool := 0xdc80 ≤ c.val && c.val ≤ 0xdcff

/-- How many bytes a code point takes in a file name. -/
def pointSize (c : CodePoint) : Nat :=
  if c.val < 0x80 ∨ isRawByte c then 1
  else if c.val < 0x800 then 2
  else if c.val < 0x10000 then 3
  else 4

/-- How many bytes a text takes in a file name. -/
def size (t : Text) : Nat := t.foldr (fun c n => pointSize c + n) 0

/-- Why a path cannot be the name of anything. -/
inductive Fault where
  | notEncodable (run : SurrogateRun)
  | zero

/-- The word for a fault in reports. -/
def Fault.kind : Fault → String
  | .notEncodable _ => "UnicodeEncodeError"
  | .zero => "ValueError"

def Fault.message : Fault → Text
  | .notEncodable run => run.message
  | .zero => "embedded null byte"

/-- Refuses a path that has no bytes, or a zero among them. -/
def check (path : Path) : Except Fault Unit :=
  match SurrogateRun.find? (fun c => !isRawByte c) path.text with
  | some run => .error (.notEncodable run)
  | none => if path.text.any fun c => c.val = 0 then .error .zero else .ok ()

end Path

end EventScript
