/-
**Writing JSON.** The compact form: no blanks between tokens, members and items in the order given.

* `writeObject`, `writeArray`: values made of written values;
* `writeDecimal`: a number without sign.
-/

import MediaTrail.Json.Quotation

namespace MediaTrail.Json

open Text (Bytes)

/-- Written values with commas between them. -/
def commaSeparated : List Bytes → Bytes
  | [] => []
  | [last] => last
  | first :: second :: rest => first ++ 0x2C :: commaSeparated (second :: rest)

/-- An array of written values. -/
def writeArray (items : List Bytes) : Bytes :=
  0x5B :: commaSeparated items ++ [0x5D]

/-- An object of keys and written values. -/
def writeObject (members : List (String × Bytes)) : Bytes :=
  0x7B :: commaSeparated (members.map fun (key, value) => Quotation.write key ++ 0x3A :: value) ++
    [0x7D]

/-- A truth value. -/
def writeBool (value : Bool) : Bytes :=
  ascii (if value then "true" else "false")

/-- A number without sign. -/
def writeDecimal (value : Nat) : Bytes :=
  (Nat.toDigits 10 value).map Char.toUInt8

end MediaTrail.Json
