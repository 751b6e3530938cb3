/-
**Ranges of characters.** The character classes of this library are lists of ranges of code
points, ends included.

* `covers_iff`: a list of ranges covers a character exactly when one of its ranges holds it.
-/

namespace MediaTrail.Text

/-- The code points from `first` to `last`, both included. -/
structure CodeRange where
  first : Nat
  last : Nat
deriving DecidableEq, Repr

/-- Whether a code point lies in the range. -/
def CodeRange.holds (range : CodeRange) (code : Nat) : Bool :=
  range.first ≤ code && code ≤ range.last

/-- Whether one of the ranges holds the character. -/
def covers (ranges : List CodeRange) (char : Char) : Bool :=
  ranges.any fun range => range.holds char.toNat

theorem covers_iff (ranges : List CodeRange) (char : Char) :
    covers ranges char = true ↔
      ∃ range ∈ ranges, range.first ≤ char.toNat ∧ char.toNat ≤ range.last := by
  simp [covers, CodeRange.holds]

end MediaTrail.Text
