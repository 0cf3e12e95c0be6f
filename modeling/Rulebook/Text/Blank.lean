import Rulebook.Text.Ranges

/-!
Blank characters: spaces, line ends, tabs and separators.
-/

namespace Rulebook.Text

/-- The code points of blank characters. -/
def blankRanges : Ranges := [
  (9, 13), (28, 32), (133, 133), (160, 160), (5760, 5760), (8192, 8202), (8232, 8233),
  (8239, 8239), (8287, 8287), (12288, 12288)]

/-- Whether a code point is blank. -/
def isBlank (n : Nat) : Bool := blankRanges.contains n

/-- Whether a text has no character that is not blank. -/
def isBlankText (s : String) : Bool := s.toList.all fun c => isBlank c.toNat

end Rulebook.Text
