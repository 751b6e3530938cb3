/-
**The patterns of the line filter.** The column of a request, the paths of interface calls and the media
extensions are found in a line by patterns, which are put together as texts and compiled by an engine. A
pattern that cannot be compiled is left out, and finds nothing.

* `Engine`: what compiles patterns and looks for them;
* `LinePatterns.compile`: the patterns of a classifier;
* `LinePatterns.requestPath?`, `LinePatterns.callsApi`, `LinePatterns.mentionsMedia`: what they find in
  a line;
* `LinePatterns.forwards`: whether a line is let through by what they find;
* `Engine.reading`: the engine that reads a pattern and tries every place of a text.
-/

import MediaTrail.Pattern

namespace MediaTrail

open Text

/-- What compiles patterns from their texts, if it can, and finds out whether one of them matches
somewhere in a text, and what its first group keeps of the first match there. -/
structure Engine where
  Compiled : Type
  compile : List Char → Option Compiled
  isMatch : Compiled → List Char → Bool
  kept? : Compiled → List Char → Option (List Char)

/-- The engine that reads a pattern and tries every place of a text. -/
def Engine.reading : Engine where
  Compiled := Pattern
  compile := Pattern.read?
  isMatch := Pattern.isFound
  kept? := Pattern.kept?

/-- The patterns for the column of a request, for the paths of interface calls, and for the media
extensions, if there are any. -/
structure LinePatterns (engine : Engine) where
  request : Option engine.Compiled
  api : List engine.Compiled
  media : Option engine.Compiled

namespace LinePatterns

/-- The column of a request: a mark, a method and a path, perhaps in quotes, which is kept. -/
def requestText : List Char := "\\|\\s*[A-Z]+\\s+\"?(/[^\\s\"]*)".toList

/-- A path as a whole, behind a blank and perhaps a quote. -/
def pathText (path : String) : List Char :=
  "\\s\"?".toList ++ (escape path.toList ++ "(?:[?\\s\"]|$)".toList)

/-- One of some names as a whole, behind a dot. -/
def nameText (names : List String) : List Char :=
  "\\.(?:".toList ++ (['|'].intercalate (names.map fun name => escape name.toList) ++
    ")(?:[^a-z0-9]|$)".toList)

def compile (engine : Engine) (classifier : Classifier) : LinePatterns engine where
  request := engine.compile requestText
  api := classifier.apiPaths.filterMap fun path => engine.compile (pathText path)
  media :=
    if classifier.extensions.isEmpty then none
    else engine.compile (nameText classifier.extensions.names)

section

variable {engine : Engine} (patterns : LinePatterns engine)

/-- The path of the request that a line tells of, with its query. -/
def requestPath? (line : String) : Option String :=
  patterns.request.bind fun pattern => (engine.kept? pattern line.toList).map String.ofList

/-- Whether a line holds one of the paths of interface calls. -/
def callsApi (line : String) : Bool :=
  patterns.api.any fun pattern => engine.isMatch pattern line.toList

/-- Whether a line mentions a media extension, in any letter case. -/
def mentionsMedia (line : String) : Bool :=
  match patterns.media with
  | some pattern => engine.isMatch pattern (lower line.toList)
  | none => false

/-- Whether a line is let through. -/
def forwards (classifier : Classifier) (line : String) : Bool :=
  if isAccessLine line then
    match patterns.requestPath? line with
    | none => !patterns.callsApi line || patterns.mentionsMedia line
    | some path =>
      if classifier.isIgnored (withoutQuery path) then false
      else if classifier.isApiPath path then patterns.mentionsMedia line
      else true
  else true

end

end LinePatterns

end MediaTrail
