/-
**Blank characters.** What separates words, and a text without the blanks at its ends.

* `isBlank`: the class `White_Space`, with the ideographic space and the next-line control;
* `trim`: what stands between the first and the last character that is not blank.
-/

import MediaTrail.Text.CodeRange

namespace MediaTrail.Text

/-- The characters of the class `White_Space`. -/
def blankRanges : List CodeRange :=
  [⟨0x9, 0xD⟩, ⟨0x20, 0x20⟩, ⟨0x85, 0x85⟩, ⟨0xA0, 0xA0⟩, ⟨0x1680, 0x1680⟩, ⟨0x2000, 0x200A⟩,
    ⟨0x2028, 0x2029⟩, ⟨0x202F, 0x202F⟩, ⟨0x205F, 0x205F⟩, ⟨0x3000, 0x3000⟩]

def isBlank (char : Char) : Bool :=
  covers blankRanges char

/-- The text without the characters at its end that satisfy `drop`. -/
def trimEndWhere (drop : Char → Bool) (text : List Char) : List Char :=
  (text.reverse.dropWhile drop).reverse

/-- The text without the blanks at its start and at its end. -/
def trim (text : List Char) : List Char :=
  trimEndWhere isBlank (text.dropWhile isBlank)

end MediaTrail.Text
