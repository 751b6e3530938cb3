/-
**Lower case.** A text in lower case, letter by letter, with the two cases in which one letter is
not simply replaced by its partner:

* the capital I with a dot becomes an i and a combining dot, so a text can grow;
* the capital sigma becomes the final sigma at the end of a word (`endsWord`), and the common one
  elsewhere.

Main statements:

* `lowerFrom_done`: what is already lowered only stands in front of the rest;
* `lowerChar_ascii`: among the first 128 characters only `A` to `Z` change.
-/

import MediaTrail.Text.CaseTable

namespace MediaTrail.Text

/-- Whether the run pairs this code point with a partner. -/
def CaseRun.reaches (run : CaseRun) (code : Nat) : Bool :=
  run.first ≤ code && code ≤ run.last && (code - run.first) % run.step == 0

/-- The partner of a code point that the run reaches. -/
def CaseRun.partner (run : CaseRun) (code : Nat) : Nat :=
  run.target + (code - run.first)

/-- The lower-case partner of a character, by itself if it has none. -/
def lowerChar (char : Char) : Char :=
  if char.toNat < 0x80 then char.toLower
  else match lowerRuns.find? fun run => run.reaches char.toNat with
    | some run => Char.ofNat (run.partner char.toNat)
    | none => char

def isCased (char : Char) : Bool :=
  covers casedRanges char

/-- Whether a search for a cased neighbour passes over a character. -/
def isCaseIgnorable (char : Char) : Bool :=
  covers ignorableRanges char

/-- Whether the first character that is not passed over has a case. -/
def meetsCased (text : List Char) : Bool :=
  match text.dropWhile isCaseIgnorable with
  | [] => false
  | char :: _ => isCased char

/-- Whether a letter ends a word: a cased one stands before it and none after it. The characters
before it are given last one first. -/
def endsWord (before after : List Char) : Bool :=
  meetsCased before && !meetsCased after

/-- A character in lower case, between the characters before it, last one first, and after it. -/
def lowerBetween (before : List Char) (char : Char) (after : List Char) : List Char :=
  if char = 'İ' then ['i', '\u0307']
  else if char = 'Σ' then [if endsWord before after then 'ς' else 'σ']
  else [lowerChar char]

/-- Lowers a text behind the characters `before`, last one first, whose lower case is `done`, last
one first. -/
def lowerFrom (before done : List Char) : List Char → List Char
  | [] => done.reverse
  | char :: after =>
    lowerFrom (char :: before) ((lowerBetween before char after).reverse ++ done) after

def lower (text : List Char) : List Char :=
  lowerFrom [] [] text

/-- What is already lowered only stands in front. -/
theorem lowerFrom_done (before done text : List Char) :
    lowerFrom before done text = done.reverse ++ lowerFrom before [] text := by
  induction text generalizing before done with
  | nil => simp [lowerFrom]
  | cons char after ih =>
    rw [lowerFrom, lowerFrom, ih,
      ih (char :: before) ((lowerBetween before char after).reverse ++ [])]
    simp

/-- The lower case of a text is that of its first character, then that of the rest. -/
theorem lowerFrom_cons (before : List Char) (char : Char) (after : List Char) :
    lowerFrom before [] (char :: after) =
      lowerBetween before char after ++ lowerFrom (char :: before) [] after := by
  rw [lowerFrom, lowerFrom_done]
  simp

/-- Among the first 128 characters only `A` to `Z` change. -/
theorem lowerChar_ascii (char : Char) (ascii : char.toNat < 0x80) :
    lowerChar char = char.toLower := by
  simp [lowerChar, ascii]

end MediaTrail.Text
