/-
**Text as bytes.** Characters as sequences of one to four bytes, and back.

A reader takes one byte at a time. Between two bytes it holds at most one character under way
(`Partial`), which says how the sequence may go on; what it gives out is a list of pieces, each a
character or a longest ill-formed beginning of one.

* `encode`: the bytes of a text;
* `decode?`: the text of some bytes, if no piece is ill-formed;
* `lossy`: the text in which each ill-formed piece is one replacement character;
* `scanFrom_append`: reading goes on after any cut where it stopped.
-/

namespace MediaTrail.Text

abbrev Bytes := List UInt8

namespace Utf8

/-- A character under way: the bits read so far, the bounds of the byte that has to come next and
the number of bytes that follow that one. -/
structure Partial where
  bits : Nat
  low : UInt8
  high : UInt8
  more : Nat
deriving DecidableEq, Repr

/-- A character, or nothing for an ill-formed piece. -/
abbrev Piece := Option Char

/-- How a sequence of several bytes goes on after its first byte, if the byte can be first. The
bounds of the second byte leave out forms that are too long, surrogates and code points above the
last one. -/
def start? (byte : UInt8) : Option Partial :=
  let bits := byte.toNat
  if byte < 0xC2 then none
  else if byte < 0xE0 then some ⟨bits % 0x20, 0x80, 0xBF, 0⟩
  else if byte = 0xE0 then some ⟨bits % 0x10, 0xA0, 0xBF, 1⟩
  else if byte = 0xED then some ⟨bits % 0x10, 0x80, 0x9F, 1⟩
  else if byte < 0xF0 then some ⟨bits % 0x10, 0x80, 0xBF, 1⟩
  else if byte = 0xF0 then some ⟨bits % 0x08, 0x90, 0xBF, 2⟩
  else if byte < 0xF4 then some ⟨bits % 0x08, 0x80, 0xBF, 2⟩
  else if byte = 0xF4 then some ⟨bits % 0x08, 0x80, 0x8F, 2⟩
  else none

/-- Takes a byte where a character starts: the pieces it completes, and what is under way then. -/
def first (byte : UInt8) : List Piece × Option Partial :=
  if byte < 0x80 then ([some (Char.ofNat byte.toNat)], none)
  else match start? byte with
    | some partialChar => ([], some partialChar)
    | none => ([none], none)

/-- Takes the next byte. A byte that does not fit ends the character under way as an ill-formed
piece and is then read as a first byte. -/
def next (under : Option Partial) (byte : UInt8) : List Piece × Option Partial :=
  match under with
  | none => first byte
  | some ⟨bits, low, high, more⟩ =>
    if low ≤ byte && byte ≤ high then
      let bits := bits * 0x40 + byte.toNat % 0x40
      match more with
      | 0 => ([some (Char.ofNat bits)], none)
      | more + 1 => ([], some ⟨bits, 0x80, 0xBF, more⟩)
    else
      (none :: (first byte).1, (first byte).2)

/-- The pieces of a text that ends here. -/
def ending (under : Option Partial) : List Piece :=
  match under with
  | none => []
  | some _ => [none]

/-- Reads bytes after the pieces `done`, last one first, with a character under way. -/
def scanFrom (done : List Piece) (under : Option Partial) : Bytes → List Piece
  | [] => done.reverse ++ ending under
  | byte :: rest =>
    scanFrom ((next under byte).1.reverse ++ done) (next under byte).2 rest

def scan (bytes : Bytes) : List Piece :=
  scanFrom [] none bytes

/-- The text of some bytes, if they are well-formed. -/
def decode? (bytes : Bytes) : Option String :=
  let pieces := scan bytes
  if pieces.all Option.isSome then some (String.ofList (pieces.filterMap id)) else none

/-- The text of some bytes, with one replacement character for each ill-formed piece. -/
def lossy (bytes : Bytes) : String :=
  String.ofList ((scan bytes).map fun piece => piece.getD '\uFFFD')

def encode (text : String) : Bytes :=
  text.toList.flatMap String.utf8EncodeChar

/-- What was read before only stands in front. -/
theorem scanFrom_done (done : List Piece) (under : Option Partial) (bytes : Bytes) :
    scanFrom done under bytes = done.reverse ++ scanFrom [] under bytes := by
  induction bytes generalizing done under with
  | nil => simp [scanFrom]
  | cons byte rest ih =>
    rw [scanFrom, scanFrom, ih, ih ((next under byte).1.reverse ++ [])]
    simp

/-- The pieces that some bytes complete, and the character that is under way after them. -/
def run (under : Option Partial) : Bytes → List Piece × Option Partial
  | [] => ([], under)
  | byte :: rest =>
    let later := run (next under byte).2 rest
    ((next under byte).1 ++ later.1, later.2)

/-- Reading goes on after any cut where it stopped. -/
theorem scanFrom_append (under : Option Partial) (left right : Bytes) :
    scanFrom [] under (left ++ right) =
      (run under left).1 ++ scanFrom [] (run under left).2 right := by
  induction left generalizing under with
  | nil => simp [run]
  | cons byte rest ih =>
    simp only [List.cons_append, scanFrom, run]
    rw [scanFrom_done, ih]
    simp

@[simp]
theorem encode_append (left right : String) :
    encode (left ++ right) = encode left ++ encode right := by
  simp [encode]

end Utf8

end MediaTrail.Text
