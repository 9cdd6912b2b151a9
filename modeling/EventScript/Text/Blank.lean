import EventScript.Text.Basic
import EventScript.Text.RangeTable

/-!
Blank code points, splitting a text into the words between them, and dropping those at its end.
-/
namespace EventScript

/-- The blank code points: spaces, line ends and the separators `0x1c` to `0x1f`. -/
def blankRanges : RangeTable := [
  (0x9, 0xd), (0x1c, 0x20), (0x85, 0x85), (0xa0, 0xa0), (0x1680, 0x1680), (0x2000, 0x200a),
  (0x2028, 0x2029), (0x202f, 0x202f), (0x205f, 0x205f), (0x3000, 0x3000)]

def CodePoint.isBlank (c : CodePoint) : Bool := blankRanges.contains c.val

namespace Text

/-- The maximal runs without a blank, in order. -/
def words : Text → List Text
  | [] => []
  | c :: rest =>
    if c.isBlank then words rest
    else match rest with
      | [] => [[c]]
      | d :: _ =>
        if d.isBlank then [c] :: words rest
        else match words rest with
          | [] => [[c]]
          | word :: more => (c :: word) :: more

/-- The text without the blanks at its end. -/
def trimEnd (t : Text) : Text := t.dropEndWhile CodePoint.isBlank

end Text

end EventScript
