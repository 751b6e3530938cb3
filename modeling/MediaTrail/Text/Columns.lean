/-
**Columns.** Numbers and texts at a fixed width. Widths count characters, and a text that is too
long is kept whole.

* `toRight`, `toLeft`: a text at the right or the left end of its column;
* `zeroPadded`: a number with zeros in front;
* `length_toRight`: the width of a column that its text fits into.
-/

namespace MediaTrail.Text

def decimal (value : Nat) : List Char :=
  Nat.toDigits 10 value

/-- A text at the right end of a column. -/
def toRight (width : Nat) (text : List Char) : List Char :=
  text.leftpad width ' '

/-- A text at the left end of a column. -/
def toLeft (width : Nat) (text : List Char) : List Char :=
  text.rightpad width ' '

/-- A number with zeros in front, to a width. -/
def zeroPadded (width value : Nat) : List Char :=
  (decimal value).leftpad width '0'

/-- A column is as wide as it is meant to be, if its text fits into it. -/
theorem length_toRight (width : Nat) (text : List Char) :
    (toRight width text).length = max width text.length :=
  List.length_leftpad

end MediaTrail.Text
