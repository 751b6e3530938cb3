/-
**Quotations.** A text between quotes in JSON: how it is read behind its opening quote, one byte at
a time, and how it is written.

* `Quotation.read`: the text, which has to be well-formed after its escapes are resolved;
* `Quotation.write`: the shortest escapes, and only where they are needed.
-/

import MediaTrail.Json.Reader

namespace MediaTrail.Json

open Text (Bytes)

namespace Quotation

/-- Where reading stands inside a quotation. -/
inductive Place where
  /-- Between two characters. -/
  | plain
  /-- Behind a backslash. -/
  | escape
  /-- Inside the four digits of a code unit, of which `left` are to come; `lead` is the first unit
  of a pair, and `valid` says whether all digits so far were digits. -/
  | unit (lead : Option Nat) (value : Nat) (valid : Bool) (left : Nat)
  /-- Behind the first unit of a pair, where a backslash has to come. -/
  | pair (lead : Nat)
  /-- Behind that backslash, where a `u` has to come. -/
  | pairMark (lead : Nat)
deriving DecidableEq, Repr

/-- The value of a hexadecimal digit, in either case. -/
def hexValue? (byte : UInt8) : Option Nat :=
  if 0x30 ≤ byte && byte ≤ 0x39 then some (byte.toNat - 0x30)
  else if 0x41 ≤ byte && byte ≤ 0x46 then some (byte.toNat - 0x37)
  else if 0x61 ≤ byte && byte ≤ 0x66 then some (byte.toNat - 0x57)
  else none

/-- The byte that a short escape stands for. -/
def shortEscape? (byte : UInt8) : Option UInt8 :=
  match Char.ofUInt8 byte with
  | '"' => some 0x22
  | '\\' => some 0x5C
  | '/' => some 0x2F
  | 'b' => some 0x08
  | 'f' => some 0x0C
  | 'n' => some 0x0A
  | 'r' => some 0x0D
  | 't' => some 0x09
  | _ => none

/-- Whether a code unit is the first of a pair. -/
def isLead (unit : Nat) : Bool := 0xD800 ≤ unit && unit ≤ 0xDBFF

/-- Whether a code unit is the second of a pair. -/
def isTrail (unit : Nat) : Bool := 0xDC00 ≤ unit && unit ≤ 0xDFFF

/-- The code point of a pair of code units. -/
def pairValue (lead trail : Nat) : Nat :=
  (lead - 0xD800) * 0x400 + (trail - 0xDC00) + 0x10000

/-- What a step inside a quotation leads to. -/
inductive Step where
  /-- On to the next byte, with these bytes added to the text. -/
  | on (place : Place) (added : Bytes)
  /-- The quote that closes. -/
  | close
  /-- No quotation. -/
  | fail
deriving DecidableEq, Repr

/-- The step at the last digit of a code unit. -/
def unitStep (lead : Option Nat) (unit : Nat) : Step :=
  match lead with
  | none =>
    if isTrail unit then .fail
    else if isLead unit then .on (.pair unit) []
    else .on .plain (String.utf8EncodeChar (Char.ofNat unit))
  | some lead =>
    if isTrail unit then .on .plain (String.utf8EncodeChar (Char.ofNat (pairValue lead unit)))
    else .fail

/-- The step on one byte. -/
def step (place : Place) (byte : UInt8) : Step :=
  match place with
  | .plain =>
    if byte = 0x22 then .close
    else if byte = 0x5C then .on .escape []
    else if byte < 0x20 then .fail
    else .on .plain [byte]
  | .escape =>
    if byte = 0x75 then .on (.unit none 0 true 3) []
    else match shortEscape? byte with
      | some meant => .on .plain [meant]
      | none => .fail
  | .unit lead value valid left =>
    let digit := hexValue? byte
    let value := value * 16 + digit.getD 0
    let valid := valid && digit.isSome
    match left with
    | left + 1 => .on (.unit lead value valid left) []
    | 0 => if valid then unitStep lead value else .fail
  | .pair lead => if byte = 0x5C then .on (.pairMark lead) [] else .fail
  | .pairMark lead => if byte = 0x75 then .on (.unit (some lead) 0 true 3) [] else .fail

/-- Reads on from a place, with the bytes of the text so far, last one first. -/
def readFrom (place : Place) (done : Bytes) : Bytes → Except Fault (String × Bytes)
  | [] => .error .endOfInput
  | byte :: rest =>
    match step place byte with
    | .on place added => readFrom place (added.reverse ++ done) rest
    | .close =>
      match Text.Utf8.decode? done.reverse with
      | some text => .ok (text, rest)
      | none => .error .malformed
    | .fail => .error .malformed

/-- Reads a text behind its opening quote. -/
def read : Reader String :=
  readFrom .plain []

/-- A hexadecimal digit. -/
def hexDigit (value : Nat) : UInt8 :=
  if value < 10 then (0x30 + value).toUInt8 else (0x57 + value).toUInt8

/-- The written form of a character. -/
def writeChar (char : Char) : Bytes :=
  match char with
  | '"' => ascii "\\\""
  | '\\' => ascii "\\\\"
  | '\x08' => ascii "\\b"
  | '\t' => ascii "\\t"
  | '\n' => ascii "\\n"
  | '\x0C' => ascii "\\f"
  | '\r' => ascii "\\r"
  | _ =>
    if char.toNat < 0x20 then
      ascii "\\u00" ++ [hexDigit (char.toNat / 16), hexDigit (char.toNat % 16)]
    else String.utf8EncodeChar char

/-- The written form of a text, with its quotes. -/
def write (text : String) : Bytes :=
  0x22 :: text.toList.flatMap writeChar ++ [0x22]

end Quotation

end MediaTrail.Json
