/-
**Access log lines.** What a rendered line tells about its request, found again in the text: the
path behind the method column, the call of an interface, the mention of a media file. A line of
another source carries no mark and is always let through.

* `findFirst?`: the first place of a text where a match starts;
* `requestPath?`: the path in the first column that reads as method and path;
* `Classifier.callsApi`, `Extensions.mentioned`: whether an interface path or a media extension occurs;
* `Classifier.forwards`: whether a line is let through.
-/

import MediaTrail.Classifier

namespace MediaTrail

open Text

/-! ### Searching -/

/-- The result of the first place where a match starts, the end of the text included. -/
def findFirst? {α : Type} (matchHere? : List Char → Option α) : List Char → Option α
  | [] => matchHere? []
  | char :: rest =>
    match matchHere? (char :: rest) with
    | some result => some result
    | none => findFirst? matchHere? rest

/-- Whether a match starts somewhere, the end of the text included. -/
def occurs (matchesHere : List Char → Bool) : List Char → Bool
  | [] => matchesHere []
  | char :: rest => matchesHere (char :: rest) || occurs matchesHere rest

theorem occurs_iff (matchesHere : List Char → Bool) (text : List Char) :
    occurs matchesHere text = true ↔ ∃ rest, rest <:+ text ∧ matchesHere rest = true := by
  induction text with
  | nil => simp [occurs]
  | cons char rest ih =>
    simp only [occurs, Bool.or_eq_true, ih, List.suffix_cons_iff]
    constructor
    · rintro (here | ⟨suffix, isSuffix, there⟩)
      · exact ⟨_, .inl rfl, here⟩
      · exact ⟨suffix, .inr isSuffix, there⟩
    · rintro ⟨suffix, equal | isSuffix, there⟩
      · exact .inl (equal ▸ there)
      · exact .inr ⟨suffix, isSuffix, there⟩

/-! ### The request column -/

/-- Whether a character can belong to a method. -/
def isMethodChar (char : Char) : Bool := 'A' ≤ char && char ≤ 'Z'

/-- Whether a character can belong to a path: neither blank nor a quote. -/
def isPathChar (char : Char) : Bool := !isBlank char && char != '"'

/-- The text behind a quote, or the text itself if there is none. -/
def skipQuote (text : List Char) : List Char :=
  match text with
  | '"' :: rest => rest
  | _ => text

/-- The path behind a column mark, blanks, a method, blanks and at most one quote. -/
def pathAfterMark? (text : List Char) : Option (List Char) :=
  match text with
  | '|' :: rest =>
    let column := rest.dropWhile isBlank
    let afterMethod := column.dropWhile isMethodChar
    let path := skipQuote (afterMethod.dropWhile isBlank)
    if (column.head?.any isMethodChar) && (afterMethod.head?.any isBlank) && path.head? == some '/'
    then some (path.takeWhile isPathChar)
    else none
  | _ => none

/-- The path of the request that a line tells of, with its query. -/
def requestPath? (line : String) : Option String :=
  (findFirst? pathAfterMark? line.toList).map String.ofList

/-! ### Interface calls -/

/-- Whether a path may end in front of this text. -/
def endsPath (text : List Char) : Bool :=
  match text with
  | [] => true
  | char :: _ => char == '?' || isBlank char || char == '"'

/-- Whether a text starts with a whole path. -/
def startsWithPath (path text : List Char) : Bool :=
  match path.isPrefixOf? text with
  | some rest => endsPath rest
  | none => false

/-- Whether a path starts behind a blank, in quotes or without. -/
def callsHere (path text : List Char) : Bool :=
  match text with
  | char :: rest =>
    isBlank char && (startsWithPath path rest || match rest with
      | '"' :: quoted => startsWithPath path quoted
      | _ => false)
  | [] => false

/-- Whether a line holds one of the paths of interface calls. -/
def Classifier.callsApi (classifier : Classifier) (line : String) : Bool :=
  let text := line.toList
  classifier.apiPaths.any fun path => occurs (callsHere path.toList) text

/-! ### Media files -/

/-- Whether an extension may end in front of this text. -/
def endsExtension (text : List Char) : Bool :=
  match text with
  | [] => true
  | char :: _ => !(('a' ≤ char && char ≤ 'z') || ('0' ≤ char && char ≤ '9'))

/-- Whether a text starts with a dot and a whole extension. -/
def mentionsHere (names : List (List Char)) (text : List Char) : Bool :=
  match text with
  | '.' :: rest => names.any fun name =>
    match name.isPrefixOf? rest with
    | some after => endsExtension after
    | none => false
  | _ => false

/-- Whether a line mentions a media extension, in any letter case. -/
def Extensions.mentioned (extensions : Extensions) (line : String) : Bool :=
  occurs (mentionsHere (extensions.names.map String.toList)) (lower line.toList)

/-! ### The decision -/

/-- What marks a line of the access log. -/
def accessMark : String := "[GIN]"

/-- Whether a line belongs to the access log. -/
def isAccessLine (line : String) : Bool :=
  occurs accessMark.toList.isPrefixOf line.toList

/-- Whether a line is let through. An interface call has to mention a media file; a line without a
request path is an interface call if one of the paths occurs in it. -/
def Classifier.forwards (classifier : Classifier) (line : String) : Bool :=
  if isAccessLine line then
    match requestPath? line with
    | none => !classifier.callsApi line || classifier.extensions.mentioned line
    | some path =>
      if classifier.isIgnored (withoutQuery path) then false
      else if classifier.isApiPath path then classifier.extensions.mentioned line
      else true
  else true

end MediaTrail
