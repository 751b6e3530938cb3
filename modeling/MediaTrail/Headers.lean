/-
**Header fields.** The fields of a request or response in their order. A name may occur more than
once, and its letter case plays no part; a value is any bytes, of which only some are readable text.

* `Headers.first?`: the first value of a name;
* `readable?`: a value as text, if every byte is a visible character, a space or a tab.
-/

import MediaTrail.Text.Utf8

namespace MediaTrail

open Text (Bytes)

/-- A field. Its name is kept in lower case. -/
structure Field where
  name : String
  value : Bytes
deriving DecidableEq, Repr

abbrev Headers := List Field

/-- A field with a name in any letter case. -/
def Field.named (name : String) (value : Bytes) : Field :=
  ⟨String.ofList (name.toList.map Char.toLower), value⟩

/-- The first value of a name, which is given in lower case. -/
def Headers.first? (headers : Headers) (name : String) : Option Bytes :=
  (headers.find? fun field => field.name == name).map Field.value

/-- Whether a byte of a value is readable. -/
def isReadableByte (byte : UInt8) : Bool :=
  byte == 0x09 || (0x20 ≤ byte && byte ≤ 0x7E)

def readable? (value : Bytes) : Option (List Char) :=
  if value.all isReadableByte then some (value.map Char.ofUInt8) else none

def Headers.text? (headers : Headers) (name : String) : Option (List Char) :=
  (headers.first? name).bind readable?

end MediaTrail
