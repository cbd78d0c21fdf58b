import Stagehand.Text.CodeRange

/-! # Blank text

A blank character is one with the property White_Space of the character standard: the controls
from tab to carriage return, the space, the next-line control, and the spaces and separators of
the other blocks.
-/

set_option autoImplicit false

namespace Stagehand.Text

/-- Ranges of the blank code points. -/
def blankRanges : List (Nat × Nat) :=
  [(0x9, 0xD), (0x20, 0x20), (0x85, 0x85), (0xA0, 0xA0), (0x1680, 0x1680), (0x2000, 0x200A),
   (0x2028, 0x2029), (0x202F, 0x202F), (0x205F, 0x205F), (0x3000, 0x3000)]

/-- White space of any script. -/
def isBlankChar (c : Char) : Bool :=
  inRanges blankRanges c

/-- Nothing is left of the text once the blanks around it are taken off. -/
def isBlank (text : String) : Bool :=
  text.toList.all isBlankChar

end Stagehand.Text
