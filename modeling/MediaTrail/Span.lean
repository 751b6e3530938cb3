/-
**Spans of time.** How long something took, to the nanosecond, and its text: the largest unit below
a second that gives a whole part, or hours, minutes and seconds from a second on, with as many
decimal places as there are.

* `Span.text`: the text, which loses nothing;
* `Span.truncated`: whole seconds, for what took more than a minute;
* `Span.shown`: the text in records, where long spans are truncated first.
-/

import MediaTrail.Text.Blank
import MediaTrail.Text.Columns

namespace MediaTrail

open Text

/-- A span of time. -/
structure Span where
  nanoseconds : Nat
deriving DecidableEq, Repr

namespace Span

/-- The number of nanoseconds in a second. -/
def perSecond : Nat := 1000000000

def ofSeconds (seconds nanoseconds : Nat) : Span :=
  ⟨seconds * perSecond + nanoseconds⟩

def seconds (span : Span) : Nat := span.nanoseconds / perSecond

def subsecond (span : Span) : Nat := span.nanoseconds % perSecond

def microseconds (span : Span) : Nat := span.nanoseconds / 1000

/-- A number of units, given in parts of which a one with `places` zeros make up a unit: the whole
units, and decimal places where they are not zero. -/
def inUnits (parts places : Nat) (unit : String) : List Char :=
  let unitParts := Nat.pow 10 places
  let fraction :=
    if parts % unitParts = 0 then []
    else '.' :: trimEndWhere (· == '0') (zeroPadded places (parts % unitParts))
  decimal (parts / unitParts) ++ fraction ++ unit.toList

/-- The text of a span of at least a second. -/
def clockText (span : Span) : List Char :=
  let hours := span.seconds / 3600
  let minutes := span.seconds % 3600 / 60
  let rest := inUnits (span.nanoseconds % (60 * perSecond)) 9 "s"
  if 0 < hours then decimal hours ++ 'h' :: decimal minutes ++ 'm' :: rest
  else if 0 < minutes then decimal minutes ++ 'm' :: rest
  else rest

def chars (span : Span) : List Char :=
  if span.nanoseconds = 0 then ['0', 's']
  else if span.nanoseconds < 1000 then inUnits span.nanoseconds 0 "ns"
  else if span.nanoseconds < 1000000 then inUnits span.nanoseconds 3 "µs"
  else if span.nanoseconds < 1000000000 then inUnits span.nanoseconds 6 "ms"
  else span.clockText

def text (span : Span) : String :=
  String.ofList span.chars

/-- A span of more than a minute in whole seconds, any other as it is. -/
def truncated (span : Span) : Span :=
  if 60 * perSecond < span.nanoseconds then ofSeconds span.seconds 0 else span

/-- The text of a span in records. -/
def shown (span : Span) : String :=
  span.truncated.text

end Span

end MediaTrail
