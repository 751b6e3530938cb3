/-
**Values of a known kind.** Readers of truth values, integers, texts, names from a fixed choice and
values that may be null. Each passes over blanks first, and a value of another kind is a mismatch,
found once that value is known to be well-formed as far as its first token goes.

* `otherKind`: the fault of a value that is not of the kind wanted;
* `whole`: a value that has to take up all bytes.
-/

import MediaTrail.Json.Number
import MediaTrail.Json.Skip

namespace MediaTrail.Json

open Text (Bytes)

/-- The fault of a value that is not of the kind wanted. The bytes start with no blank. -/
def otherKind (bytes : Bytes) : Fault :=
  let faultOf {α : Type} (result : Except Fault α) : Fault :=
    match result with
    | .ok _ => .mismatched
    | .error fault => fault
  match bytes with
  | [] => .endOfInput
  | byte :: rest =>
    match Char.ofUInt8 byte with
    | 'n' => faultOf (literal (ascii "ull") rest)
    | 't' => faultOf (literal (ascii "rue") rest)
    | 'f' => faultOf (literal (ascii "alse") rest)
    | '"' => faultOf (Quotation.read rest)
    | '[' => .mismatched
    | '{' => .mismatched
    | '-' => faultOf (Number.read bytes)
    | _ => if isDigitByte byte then faultOf (Number.read bytes) else .malformed

/-- Reads a word behind its first byte, for the value it stands for. -/
def word {α : Type} (more : String) (value : α) : Reader α := fun bytes => do
  let rest ← literal (ascii more) bytes
  return (value, rest)

def boolean : Reader Bool := fun bytes =>
  match skipBlanks bytes with
  | 0x74 :: rest => word "rue" true rest
  | 0x66 :: rest => word "alse" false rest
  | bytes => .error (otherKind bytes)

def integer (low high : Int) : Reader Int := fun bytes =>
  let bytes := skipBlanks bytes
  match bytes with
  | [] => .error .endOfInput
  | byte :: _ =>
    if byte = 0x2D ∨ isDigitByte byte then do
      let (number, rest) ← Number.read bytes
      match number with
      | .integer value =>
        if low ≤ value ∧ value ≤ high then return (value, rest) else .error .mismatched
      | .real => .error .mismatched
    else .error (otherKind bytes)

def text : Reader String := fun bytes =>
  match skipBlanks bytes with
  | 0x22 :: rest => Quotation.read rest
  | bytes => .error (otherKind bytes)

/-- Reads a value, or null for none. -/
def nullable {α : Type} (read : Reader α) : Reader (Option α) := fun bytes =>
  match skipBlanks bytes with
  | 0x6E :: rest => word "ull" none rest
  | bytes => do
    let (value, rest) ← read bytes
    return (some value, rest)

/-- Reads a value, or null for the value in its place. -/
def orNull {α : Type} (read : Reader α) (missing : α) : Reader α := fun bytes => do
  let (value, rest) ← nullable read bytes
  return (value.getD missing, rest)

def null : Reader Unit := fun bytes =>
  match skipBlanks bytes with
  | 0x6E :: rest => word "ull" () rest
  | bytes => .error (otherKind bytes)

/-- Reads the key of an object. A value of another kind is no mismatch here: it cannot be a key. -/
def key : Reader String := fun bytes =>
  match skipBlanks bytes with
  | [] => .error .endOfInput
  | byte :: rest => if byte = 0x22 then Quotation.read rest else .error .malformed

/-- Reads the colon behind a key. -/
def colon (bytes : Bytes) : Except Fault Bytes :=
  match skipBlanks bytes with
  | [] => .error .endOfInput
  | byte :: rest => if byte = 0x3A then .ok rest else .error .malformed

/-- Reads one of these names as a text of some kind, for the value it stands for. -/
def name {α : Type} (names : List (String × α)) (read : Reader String) : Reader α := fun bytes => do
  let (given, rest) ← read bytes
  match names.lookup given with
  | some value => return (value, rest)
  | none => .error .mismatched

/-- Reads a name from a fixed choice: by itself, or as the only key of an object, with null. -/
def choice {α : Type} (names : List (String × α)) : Reader α := fun bytes =>
  let bytes := skipBlanks bytes
  match bytes with
  | [] => .error .endOfInput
  | byte :: rest =>
    if byte = 0x22 then name names text bytes
    else if byte = 0x7B then do
      let (value, rest) ← name names key rest
      let rest ← colon rest
      let ((), rest) ← null rest
      match skipBlanks rest with
      | [] => .error .endOfInput
      | byte :: rest => if byte = 0x7D then return (value, rest) else .error .malformed
    else .error .malformed

/-- Reads a value that takes up all the bytes, blanks apart. -/
def whole {α : Type} (read : Reader α) (bytes : Bytes) : Except Fault α := do
  let (value, rest) ← read bytes
  match skipBlanks rest with
  | [] => return value
  | _ :: _ => .error .malformed

end MediaTrail.Json
