/-
**Network addresses.** Addresses of four octets or eight groups, and their text.

* `Address.text`: octets in decimal; groups in hexadecimal, where the first longest run of at least
  two zero groups is left out, and an address that embeds four octets ends in them.
-/

import MediaTrail.Text.Columns

namespace MediaTrail

open Text

/-- An address of a host. -/
inductive Address where
  | v4 (a b c d : UInt8)
  | v6 (a b c d e f g h : UInt16)
deriving DecidableEq, Repr

namespace Address

/-- Texts with a mark between them. -/
def separated (mark : Char) : List (List Char) → List Char
  | [] => []
  | [last] => last
  | first :: second :: rest => first ++ mark :: separated mark (second :: rest)

def octets (parts : List UInt8) : List Char :=
  separated '.' (parts.map fun part => decimal part.toNat)

/-- Groups in hexadecimal, without zeros in front. -/
def groups (parts : List UInt16) : List Char :=
  separated ':' (parts.map fun part => Nat.toDigits 16 part.toNat)

/-- How many zero groups the list starts with. -/
def leadingZeros (parts : List UInt16) : Nat :=
  (parts.takeWhile (· == 0)).length

/-- Where the first longest run of zero groups starts in a list that stands at `index`, and its
length, given the best run so far. -/
def longestZeros (index start length : Nat) : List UInt16 → Nat × Nat
  | [] => (start, length)
  | part :: rest =>
    let run := leadingZeros (part :: rest)
    if length < run then longestZeros (index + 1) index run rest
    else longestZeros (index + 1) start length rest

/-- Eight groups, the first longest run of at least two zero groups left out. -/
def compressed (parts : List UInt16) : List Char :=
  let (start, length) := longestZeros 0 0 0 parts
  if 1 < length then
    groups (parts.take start) ++ ':' :: ':' :: groups (parts.drop (start + length))
  else groups parts

/-- The two octets of a group. -/
def halves (part : UInt16) : List UInt8 :=
  [(part.toNat / 256).toUInt8, (part.toNat % 256).toUInt8]

def chars : Address → List Char
  | v4 a b c d => octets [a, b, c, d]
  | v6 a b c d e f g h =>
    if [a, b, c, d, e, f] = [0, 0, 0, 0, 0, 0xFFFF] then
      "::ffff:".toList ++ octets (halves g ++ halves h)
    else compressed [a, b, c, d, e, f, g, h]

def text (address : Address) : String :=
  String.ofList address.chars

end Address

end MediaTrail
