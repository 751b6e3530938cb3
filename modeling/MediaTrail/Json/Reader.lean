/-
**Reading JSON from bytes.** A reader takes a value off the front of some bytes and hands back the
bytes after it, or stops at the first fault.

* `Fault`: the three ways in which reading fails;
* `literal_append`: a literal in front of anything is read off;
* `skipBlanks_of_blank`: blanks in front of anything are passed over.
-/

import MediaTrail.Text.Utf8

namespace MediaTrail.Json

open Text (Bytes)

/-- Why reading stopped. -/
inductive Fault where
  /-- The bytes end inside a value. -/
  | endOfInput
  /-- The bytes are no JSON from here on, or hold a number beyond all bounds. -/
  | malformed
  /-- The value is of another kind, or a member is missing, unknown or given twice. -/
  | mismatched
deriving DecidableEq, Repr

/-- Takes a value off the front of some bytes. -/
abbrev Reader (α : Type) := Bytes → Except Fault (α × Bytes)

/-- The bytes of a text of the first 128 characters. -/
def ascii (text : String) : Bytes :=
  text.toList.map Char.toUInt8

/-- The bytes that may stand between two tokens. -/
def isBlankByte (byte : UInt8) : Bool :=
  byte == 0x20 || byte == 0x0A || byte == 0x09 || byte == 0x0D

/-- Whether a byte is a decimal digit. -/
def isDigitByte (byte : UInt8) : Bool :=
  0x30 ≤ byte && byte ≤ 0x39

/-- The bytes from the first that is not blank. -/
def skipBlanks (bytes : Bytes) : Bytes :=
  bytes.dropWhile isBlankByte

/-- Takes exactly these bytes off the front. -/
def literal : Bytes → Bytes → Except Fault Bytes
  | [], bytes => .ok bytes
  | _ :: _, [] => .error .endOfInput
  | expected :: more, byte :: rest =>
    if byte = expected then literal more rest else .error .malformed

theorem literal_append (expected rest : Bytes) :
    literal expected (expected ++ rest) = .ok rest := by
  induction expected with
  | nil => rfl
  | cons byte more ih => simp [literal, ih]

/-- Blanks in front of anything are passed over. -/
theorem skipBlanks_of_blank (blanks rest : Bytes)
    (blank : ∀ byte ∈ blanks, isBlankByte byte = true) :
    skipBlanks (blanks ++ rest) = skipBlanks rest := by
  induction blanks with
  | nil => rfl
  | cons byte more ih =>
    have here := blank byte (by simp)
    have later := ih fun other member => blank other (by simp [member])
    simpa [skipBlanks, here] using later

end MediaTrail.Json
