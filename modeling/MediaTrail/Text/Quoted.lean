/-
**Quoted text.** How a message shows a text it speaks about: between double quotes, with the
characters that would not be seen as themselves written as escapes.

* `escape`: the written form of one character;
* `quoted`: the whole text between quotes.
-/

import MediaTrail.Text.EscapeTable

namespace MediaTrail.Text

/-- The written form of a character inside quotes. -/
def escape (char : Char) : List Char :=
  match char with
  | '\x00' => ['\\', '0']
  | '\t' => ['\\', 't']
  | '\n' => ['\\', 'n']
  | '\r' => ['\\', 'r']
  | '"' => ['\\', '"']
  | '\\' => ['\\', '\\']
  | _ =>
    if covers escapedRanges char then
      ['\\', 'u', '{'] ++ Nat.toDigits 16 char.toNat ++ ['}']
    else [char]

/-- The text between double quotes. -/
def quoted (text : String) : String :=
  String.ofList ('"' :: text.toList.flatMap escape ++ ['"'])

end MediaTrail.Text
