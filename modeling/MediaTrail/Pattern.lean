/-
**Patterns.** Regular expressions of the few forms that the filter of lines is made of: characters and
sets of them, one after the other or in alternatives, some of which may be left out or repeated, a part
whose match is kept, and the end of the text.

* `Pattern.rests`: what a match at the start of a text leaves of it, for each way to match;
* `Pattern.isFound`: whether a match starts somewhere in a text;
* `Pattern.ways`, `Pattern.kept?`: what is kept of a match, and of the first one in a text;
* `Pattern.read?`: the pattern that a text is the form of, read by one character at a time;
* `escape`: the form of a text that is to be found as it is.
-/

import MediaTrail.Line

namespace MediaTrail

open Text

/-- The characters that some ranges hold, or all the others. -/
structure CharSet where
  negated : Bool
  ranges : List CodeRange
deriving DecidableEq, Repr

def CharSet.holds (set : CharSet) (char : Char) : Bool :=
  covers set.ranges char != set.negated

/-- The range of one character. -/
def rangeOf (char : Char) : CodeRange := ⟨char.toNat, char.toNat⟩

inductive Pattern where
  /-- A character of a set. -/
  | one (set : CharSet)
  /-- The end of the text. -/
  | atEnd
  | nothing
  | both (first second : Pattern)
  | either (first second : Pattern)
  /-- What may be left out. -/
  | maybe (inner : Pattern)
  /-- Characters of a set, as many as there are. -/
  | many (set : CharSet)
  /-- A part whose match is kept. -/
  | group (inner : Pattern)
deriving DecidableEq, Repr

namespace Pattern

/-- A character as it is. -/
def literal (char : Char) : Pattern := one ⟨false, [rangeOf char]⟩

/-- Any blank character. -/
def blank : Pattern := one ⟨false, blankRanges⟩

/-- What is left of a text behind characters of a set, for as many of them as there are, and then for
fewer. -/
def skips (set : CharSet) : List Char → List (List Char)
  | [] => [[]]
  | char :: rest => (if set.holds char then skips set rest else []) ++ [char :: rest]

/-- What is left of a text behind a match at its start, for each way to match, the preferred one
first. -/
def rests : Pattern → List Char → List (List Char)
  | one set, char :: rest => if set.holds char then [rest] else []
  | one _, [] => []
  | atEnd, [] => [[]]
  | atEnd, _ :: _ => []
  | nothing, text => [text]
  | both first second, text => (first.rests text).flatMap second.rests
  | either first second, text => first.rests text ++ second.rests text
  | maybe inner, text => inner.rests text ++ [text]
  | many set, text => skips set text
  | group inner, text => inner.rests text

/-- Whether a match starts somewhere in a text. -/
def isFound (pattern : Pattern) (text : List Char) : Bool :=
  occurs (fun text => !(pattern.rests text).isEmpty) text

/-- The ways to match at the start of a text, the preferred one first: what is left, and what is kept
of the match if a group takes part in it. -/
def ways : Pattern → List Char → List (List Char × Option (List Char))
  | both first second, text =>
    (first.ways text).flatMap fun way =>
      (second.ways way.1).map fun later => (later.1, way.2 <|> later.2)
  | either first second, text => first.ways text ++ second.ways text
  | maybe inner, text => inner.ways text ++ [(text, none)]
  | group inner, text =>
    (inner.rests text).map fun rest => (rest, some (text.take (text.length - rest.length)))
  | pattern, text => (pattern.rests text).map fun rest => (rest, none)

/-- What is kept of the first match in a text, if there is one: the leftmost, and of those that start
there the preferred one. -/
def kept? (pattern : Pattern) (text : List Char) : Option (List Char) :=
  (findFirst? (fun text => (pattern.ways text).head?.map Prod.snd) text).join

/-- How many groups a pattern has. -/
def groups : Pattern → Nat
  | both first second | either first second => first.groups + second.groups
  | maybe inner => inner.groups
  | group inner => inner.groups + 1
  | _ => 0

/-- Whether how often an item occurs is left open, so that nothing more can be said of it. -/
def isOpen : Pattern → Bool
  | maybe _ | many _ => true
  | _ => false

/-- Patterns one behind the other. -/
def sequence (items : List Pattern) : Pattern :=
  items.foldr both nothing

/-! ### Patterns in the making -/

/-- What has been read of a pattern: the alternatives that are over, and the items of the last one. The
last read comes first. -/
structure Frame where
  branches : List (List Pattern) := []
  items : List Pattern := []
deriving DecidableEq, Repr

namespace Frame

/-- The pattern that ends here. -/
def pattern (frame : Frame) : Pattern :=
  frame.branches.foldl (fun later branch => either (sequence branch.reverse) later)
    (sequence frame.items.reverse)

def push (frame : Frame) (item : Pattern) : Frame :=
  { frame with items := item :: frame.items }

/-- Behind the bar between two alternatives. -/
def next (frame : Frame) : Frame :=
  ⟨frame.items :: frame.branches, []⟩

end Frame

/-! ### Reading -/

/-- The characters that stand for themselves only behind a backslash. -/
def marks : List Char :=
  ['\\', '.', '+', '*', '?', '(', ')', '|', '[', ']', '\x7b', '\x7d', '^', '$', '#', '&', '-', '~']

/-- Those of a set, which do not stand for themselves there. -/
def setMarks : List Char :=
  ['\\', '[', ']', '^', '&', '-', '~']

/-- Where reading stands. -/
inductive Place where
  /-- In front of an item. -/
  | plain
  /-- Behind a backslash. -/
  | escaped
  /-- Behind an opening parenthesis, and behind the question mark there. -/
  | opened
  | openedMark
  /-- Behind the bracket that opens a set. -/
  | setStart
  /-- In a set of these ranges, behind a character that may be the first of a range. -/
  | set (negated : Bool) (ranges : List CodeRange) (last? : Option Char)
  /-- Behind a backslash in a set. -/
  | setEscaped (negated : Bool) (ranges : List CodeRange)
  /-- Behind the hyphen of a range. -/
  | setRange (negated : Bool) (ranges : List CodeRange) (first : Char)
deriving DecidableEq, Repr

/-- What has been read around an open parenthesis, and whether the match of what is inside is kept. -/
structure Around where
  frame : Frame
  keeps : Bool
deriving DecidableEq, Repr

/-- A pattern half read: where reading stands, what has been read inside the last parenthesis that is
open, and around each one that is. -/
structure Reading where
  place : Place
  frame : Frame
  outer : List Around
deriving DecidableEq, Repr

/-- What stands around a parenthesis once it is closed. -/
def Around.close (around : Around) (inner : Pattern) : Frame :=
  around.frame.push (if around.keeps then group inner else inner)

/-- The ranges of a set with that of its last character. -/
def withLast (ranges : List CodeRange) (last? : Option Char) : List CodeRange :=
  ranges ++ last?.toList.map rangeOf

/-- Reads a character in a set. -/
def setStep (frame : Frame) (outer : List Around) (negated : Bool) (ranges : List CodeRange)
    (last? : Option Char) (char : Char) : Option Reading :=
  match char with
  | '\\' => some ⟨.setEscaped negated (withLast ranges last?), frame, outer⟩
  | '-' => last?.map fun first => ⟨.setRange negated ranges first, frame, outer⟩
  | ']' =>
    if withLast ranges last? = [] then none
    else some ⟨.plain, frame.push (one ⟨negated, withLast ranges last?⟩), outer⟩
  | _ =>
    if setMarks.contains char then none
    else some ⟨.set negated (withLast ranges last?) (some char), frame, outer⟩

/-- Reads a character in front of an item or behind one. -/
def plainStep (frame : Frame) (outer : List Around) (char : Char) : Option Reading :=
  match char with
  | '\\' => some ⟨.escaped, frame, outer⟩
  | '[' => some ⟨.setStart, frame, outer⟩
  | '(' => some ⟨.opened, frame, outer⟩
  | ')' =>
    match outer with
    | around :: outer => some ⟨.plain, around.close frame.pattern, outer⟩
    | [] => none
  | '|' => some ⟨.plain, frame.next, outer⟩
  | '$' => some ⟨.plain, frame.push atEnd, outer⟩
  | '?' =>
    match frame.items with
    | item :: items =>
      if item.isOpen then none else some ⟨.plain, ⟨frame.branches, maybe item :: items⟩, outer⟩
    | [] => none
  | '*' =>
    match frame.items with
    | one set :: items => some ⟨.plain, ⟨frame.branches, many set :: items⟩, outer⟩
    | _ => none
  | '+' =>
    match frame.items with
    | one set :: items => some ⟨.plain, ⟨frame.branches, many set :: one set :: items⟩, outer⟩
    | _ => none
  | _ =>
    if marks.contains char then none else some ⟨.plain, frame.push (literal char), outer⟩

/-- Reads a character. Forms that are not known here are not read. -/
def step (reading : Reading) (char : Char) : Option Reading :=
  let ⟨place, frame, outer⟩ := reading
  match place with
  | .plain => plainStep frame outer char
  | .escaped =>
    if marks.contains char then some ⟨.plain, frame.push (literal char), outer⟩
    else if char = 's' then some ⟨.plain, frame.push blank, outer⟩
    else none
  | .opened =>
    if char = '?' then some ⟨.openedMark, frame, outer⟩
    else plainStep {} (⟨frame, true⟩ :: outer) char
  | .openedMark => if char = ':' then some ⟨.plain, {}, ⟨frame, false⟩ :: outer⟩ else none
  | .setStart =>
    if char = '^' then some ⟨.set true [] none, frame, outer⟩
    else setStep frame outer false [] none char
  | .set negated ranges last? => setStep frame outer negated ranges last? char
  | .setEscaped negated ranges =>
    if char = 's' then some ⟨.set negated (ranges ++ blankRanges) none, frame, outer⟩ else none
  | .setRange negated ranges first =>
    if setMarks.contains char ∨ char < first then none
    else some ⟨.set negated (ranges ++ [⟨first.toNat, char.toNat⟩]) none, frame, outer⟩

/-- Reads on. A pattern may end where no group, set or escape is open. -/
def readFrom (reading : Reading) : List Char → Option Pattern
  | [] =>
    match reading with
    | ⟨.plain, frame, []⟩ => some frame.pattern
    | _ => none
  | char :: rest =>
    match step reading char with
    | some reading => readFrom reading rest
    | none => none

/-- The pattern that a text is the form of. -/
def read? : List Char → Option Pattern :=
  readFrom ⟨.plain, {}, []⟩

end Pattern

/-- The form of a text that is to be found as it is. -/
def escape (text : List Char) : List Char :=
  text.flatMap fun char => if Pattern.marks.contains char then ['\\', char] else [char]

end MediaTrail
