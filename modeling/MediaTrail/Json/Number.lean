/-
**Numbers.** A JSON number, read as an integer where it is one of at most 64 bits, and otherwise
only checked: its form, and that it does not exceed the greatest double-precision number.

* `Number.read`: reads a number and nothing after it;
* `exceeds`: whether a significand and a power of ten leave the range;
* `gather`: the digits that fit into 64 bits.
-/

import MediaTrail.Json.Reader

namespace MediaTrail.Json

open Text (Bytes)

/-- A number, as far as a reader of integers has to know it. -/
inductive Number where
  /-- An integer of 64 bits, signed or not, written without fraction and exponent. -/
  | integer (value : Int)
  /-- Any other number, and the zero with a minus sign. -/
  | real
deriving DecidableEq, Repr

namespace Number

def digitValue (byte : UInt8) : Nat :=
  byte.toNat - 0x30

/-- Digits written behind a number of 64 bits, up to the first that takes it out of 64 bits. -/
structure Gathered where
  value : Nat
  taken : Nat
  left : Nat
deriving DecidableEq, Repr

/-- Appends digits to a number as long as it stays below `UInt64.size`. So many digits were `taken`
before. -/
def gather (value taken : Nat) : Bytes → Gathered
  | [] => ⟨value, taken, 0⟩
  | digit :: more =>
    let longer := value * 10 + digitValue digit
    if longer < UInt64.size then gather longer (taken + 1) more
    else ⟨value, taken, more.length + 1⟩

/-- A number rounded to 53 significant binary digits, halves to the even neighbour. -/
def roundToDouble (value : Nat) : Nat :=
  let unit := Nat.pow 2 (value.log2 - 52)
  let quotient := value / unit
  let remainder := value % unit
  if 2 * remainder > unit ∨ (2 * remainder = unit ∧ quotient % 2 = 1) then (quotient + 1) * unit
  else quotient * unit

/-- The least number that rounds beyond the greatest double-precision number. -/
def doubleBound : Nat := Nat.pow 2 1024 - Nat.pow 2 970

/-- Whether the product of a significand and a power of ten leaves the range of double precision. -/
def exceeds (significand : Nat) (exponent : Int) : Bool :=
  significand ≠ 0 && 0 ≤ exponent &&
    (308 < exponent ||
      doubleBound ≤ roundToDouble significand * roundToDouble (Nat.pow 10 exponent.toNat))

/-- A number that is no integer, from its significand and its power of ten. -/
def real? (significand : Nat) (exponent : Int) (rest : Bytes) : Except Fault (Number × Bytes) :=
  if exceeds significand exponent then .error .malformed else .ok (.real, rest)

/-- The greatest exponent that is told from greater ones. It is far beyond what the digits of a
number can make up for. -/
def greatestExponent : Nat := 2147483647

def exponentOf (digits : Bytes) : Nat :=
  digits.foldl (fun value digit => min greatestExponent (value * 10 + digitValue digit)) 0

def readExponent (significand : Nat) (scale : Int) (bytes : Bytes) :
    Except Fault (Number × Bytes) :=
  let (negative, bytes) := match bytes with
    | 0x2B :: rest => (false, rest)
    | 0x2D :: rest => (true, rest)
    | _ => (false, bytes)
  match bytes with
  | [] => .error .endOfInput
  | byte :: _ =>
    if isDigitByte byte then
      let size : Int := exponentOf (bytes.takeWhile isDigitByte)
      real? significand (if negative then scale - size else scale + size)
        (bytes.dropWhile isDigitByte)
    else .error .malformed

/-- Reads what may follow a fraction. -/
def readAfterFraction (significand : Nat) (scale : Int) (bytes : Bytes) :
    Except Fault (Number × Bytes) :=
  match bytes with
  | 0x65 :: rest | 0x45 :: rest => readExponent significand scale rest
  | _ => real? significand scale bytes

/-- Reads the fraction behind its point. Each digit taken lowers the power of ten by one. -/
def readFraction (significand : Nat) (scale : Int) (bytes : Bytes) :
    Except Fault (Number × Bytes) :=
  match bytes with
  | [] => .error .endOfInput
  | byte :: _ =>
    if isDigitByte byte then
      let gathered := gather significand 0 (bytes.takeWhile isDigitByte)
      readAfterFraction gathered.value (scale - gathered.taken) (bytes.dropWhile isDigitByte)
    else .error .malformed

/-- The number that is written without fraction and exponent. -/
def whole (negative : Bool) (gathered : Gathered) (rest : Bytes) : Except Fault (Number × Bytes) :=
  if gathered.left ≠ 0 then real? gathered.value gathered.left rest
  else if negative then
    if gathered.value = 0 ∨ 9223372036854775808 < gathered.value then .ok (.real, rest)
    else .ok (.integer (-gathered.value), rest)
  else .ok (.integer gathered.value, rest)

/-- Reads what may follow the integer part. -/
def readAfterWhole (negative : Bool) (gathered : Gathered) (bytes : Bytes) :
    Except Fault (Number × Bytes) :=
  match bytes with
  | 0x2E :: rest => readFraction gathered.value gathered.left rest
  | 0x65 :: rest | 0x45 :: rest => readExponent gathered.value gathered.left rest
  | _ => whole negative gathered bytes

/-- Reads a number without its sign. A zero stands alone in front of point and exponent. -/
def readMagnitude (negative : Bool) (bytes : Bytes) : Except Fault (Number × Bytes) :=
  match bytes with
  | [] => .error .endOfInput
  | byte :: rest =>
    if byte = 0x30 then
      match rest with
      | next :: _ =>
        if isDigitByte next then .error .malformed else readAfterWhole negative ⟨0, 1, 0⟩ rest
      | [] => readAfterWhole negative ⟨0, 1, 0⟩ rest
    else if isDigitByte byte then
      readAfterWhole negative (gather 0 0 (bytes.takeWhile isDigitByte))
        (bytes.dropWhile isDigitByte)
    else .error .malformed

def read : Reader Number
  | 0x2D :: rest => readMagnitude true rest
  | bytes => readMagnitude false bytes

end Number

end MediaTrail.Json
