/-
**Values passed over.** A value that nobody asked for is only checked for its form: a machine walks
over it one byte at a time and keeps the arrays and objects that are open on a stack. Nothing is
asked of the bytes inside a quotation but that its escapes are complete, and nothing of the size of
a number or the depth of the value.

* `skip`: the bytes after the value;
* `skipFrom_go`: one step of the machine.
-/

import MediaTrail.Json.Quotation

namespace MediaTrail.Json

open Text (Bytes)

namespace Skip

/-- What is open around a value. -/
inductive Frame where
  | array
  | object
deriving DecidableEq, Repr

/-- Where the machine stands inside a quotation. -/
inductive Quoted where
  | plain
  | escape
  /-- Inside the four digits of a code unit, of which `left` are to come. -/
  | unit (valid : Bool) (left : Nat)
deriving DecidableEq, Repr

/-- Where the machine stands inside a number. -/
inductive Numeral where
  | minus
  | zero
  | whole
  | point
  | fraction
  | mark
  | sign
  | exponent
deriving DecidableEq, Repr

/-- Where the machine stands. -/
inductive Place where
  /-- In front of a value. -/
  | value
  /-- Behind the bracket that opens an array. -/
  | firstItem
  /-- Behind the brace that opens an object. -/
  | firstKey
  /-- Behind a comma in an object. -/
  | key
  /-- Behind a key. -/
  | colon
  /-- Behind a value inside something open. -/
  | after
  /-- Inside a quotation, which is a key or a value. -/
  | quoted (isKey : Bool) (place : Quoted)
  /-- Inside a word, of which these bytes are to come. -/
  | word (left : Bytes)
  /-- Inside a number. -/
  | number (place : Numeral)
deriving DecidableEq, Repr

/-- What a byte leads to. -/
inductive Move where
  /-- On to the next byte. -/
  | go (place : Place) (stack : List Frame)
  /-- The value ends with this byte. -/
  | last
  /-- The value ended before this byte. -/
  | past
  /-- No value. -/
  | fail
deriving DecidableEq, Repr

/-- A value ends with this byte: the whole one, or one inside something open. -/
def close (stack : List Frame) : Move :=
  match stack with
  | [] => .last
  | frame :: outer => .go .after (frame :: outer)

/-- The move in front of a value. -/
def valueMove (stack : List Frame) (byte : UInt8) : Move :=
  if isBlankByte byte then .go .value stack
  else match Char.ofUInt8 byte with
    | 'n' => .go (.word (ascii "ull")) stack
    | 't' => .go (.word (ascii "rue")) stack
    | 'f' => .go (.word (ascii "alse")) stack
    | '"' => .go (.quoted false .plain) stack
    | '[' => .go .firstItem (.array :: stack)
    | '{' => .go .firstKey (.object :: stack)
    | '-' => .go (.number .minus) stack
    | '0' => .go (.number .zero) stack
    | _ => if isDigitByte byte then .go (.number .whole) stack else .fail

/-- The move behind a value. -/
def afterMove (stack : List Frame) (byte : UInt8) : Move :=
  match stack with
  | [] => .past
  | frame :: outer =>
    if isBlankByte byte then .go .after stack
    else match Char.ofUInt8 byte, frame with
      | ',', .array => .go .value stack
      | ',', .object => .go .key stack
      | ']', .array => close outer
      | '}', .object => close outer
      | _, _ => .fail

/-- The move inside a quotation. -/
def quotedMove (stack : List Frame) (isKey : Bool) (place : Quoted) (byte : UInt8) : Move :=
  match place with
  | .plain =>
    if byte = 0x22 then if isKey then .go .colon stack else close stack
    else if byte = 0x5C then .go (.quoted isKey .escape) stack
    else if byte < 0x20 then .fail
    else .go (.quoted isKey .plain) stack
  | .escape =>
    if byte = 0x75 then .go (.quoted isKey (.unit true 3)) stack
    else if (Quotation.shortEscape? byte).isSome then .go (.quoted isKey .plain) stack
    else .fail
  | .unit valid left =>
    let valid := valid && (Quotation.hexValue? byte).isSome
    match left with
    | left + 1 => .go (.quoted isKey (.unit valid left)) stack
    | 0 => if valid then .go (.quoted isKey .plain) stack else .fail

/-- The move inside a number. -/
def numberMove (stack : List Frame) (place : Numeral) (byte : UInt8) : Move :=
  let digit := isDigitByte byte
  let isMark := byte = 0x65 ∨ byte = 0x45
  match place with
  | .minus =>
    if byte = 0x30 then .go (.number .zero) stack
    else if digit then .go (.number .whole) stack
    else .fail
  | .zero =>
    if digit then .fail
    else if byte = 0x2E then .go (.number .point) stack
    else if isMark then .go (.number .mark) stack
    else afterMove stack byte
  | .whole =>
    if digit then .go (.number .whole) stack
    else if byte = 0x2E then .go (.number .point) stack
    else if isMark then .go (.number .mark) stack
    else afterMove stack byte
  | .point => if digit then .go (.number .fraction) stack else .fail
  | .fraction =>
    if digit then .go (.number .fraction) stack
    else if isMark then .go (.number .mark) stack
    else afterMove stack byte
  | .mark =>
    if byte = 0x2B ∨ byte = 0x2D then .go (.number .sign) stack
    else if digit then .go (.number .exponent) stack
    else .fail
  | .sign => if digit then .go (.number .exponent) stack else .fail
  | .exponent => if digit then .go (.number .exponent) stack else afterMove stack byte

/-- The move on one byte. -/
def move (place : Place) (stack : List Frame) (byte : UInt8) : Move :=
  match place with
  | .value => valueMove stack byte
  | .firstItem =>
    if isBlankByte byte then .go .firstItem stack
    else if byte = 0x5D then close stack.tail
    else valueMove stack byte
  | .firstKey =>
    if isBlankByte byte then .go .firstKey stack
    else if byte = 0x7D then close stack.tail
    else if byte = 0x22 then .go (.quoted true .plain) stack
    else .fail
  | .key =>
    if isBlankByte byte then .go .key stack
    else if byte = 0x22 then .go (.quoted true .plain) stack
    else .fail
  | .colon =>
    if isBlankByte byte then .go .colon stack
    else if byte = 0x3A then .go .value stack
    else .fail
  | .after => afterMove stack byte
  | .quoted isKey place => quotedMove stack isKey place byte
  | .word [] => .fail
  | .word (expected :: more) =>
    if byte = expected then
      if more = [] then close stack else .go (.word more) stack
    else .fail
  | .number place => numberMove stack place byte

/-- What the end of the bytes means. A number may end with them; inside one that has to go on it is
malformed, and anything else is cut off. -/
def ending (place : Place) (stack : List Frame) : Except Fault Bytes :=
  match place with
  | .number .zero | .number .whole | .number .fraction | .number .exponent =>
    match stack with
    | [] => .ok []
    | _ :: _ => .error .endOfInput
  | .number _ => .error .malformed
  | _ => .error .endOfInput

/-- The bytes after the value that the machine stands in. -/
def skipFrom (place : Place) (stack : List Frame) : Bytes → Except Fault Bytes
  | [] => ending place stack
  | byte :: rest =>
    match move place stack byte with
    | .go place stack => skipFrom place stack rest
    | .last => .ok rest
    | .past => .ok (byte :: rest)
    | .fail => .error .malformed

/-- One step of the machine. -/
theorem skipFrom_go {place next : Place} {stack stillOpen : List Frame} {byte : UInt8} (rest : Bytes)
    (goes : move place stack byte = .go next stillOpen) :
    skipFrom place stack (byte :: rest) = skipFrom next stillOpen rest := by
  simp [skipFrom, goes]

end Skip

/-- The bytes after a value of any kind, which is passed over. -/
def skip (bytes : Bytes) : Except Fault Bytes :=
  Skip.skipFrom .value [] bytes

end MediaTrail.Json
