/-
**Media files in answers.** Which files of a listing or a description are media files, and how they
are shown. An answer that cannot be read, is no success or names no media file yields nothing.

* `Listing.hits`: the media files of a directory, in the order of the answer;
* `Description.hits`: the object itself, if it is a media file;
* `inspect`: the hits of an exchange, with the path that was asked for.
-/

import MediaTrail.Classifier
import MediaTrail.Listing

namespace MediaTrail

open Text (Bytes)

/-- A media file that an answer names. -/
structure Hit where
  name : String
  path : String
  /-- How records show the file. -/
  shown : String
deriving DecidableEq, Repr

/-- What is known about an exchange once its bodies are read. -/
structure Inspection where
  /-- The path that was asked for, empty if there was none. -/
  queriedPath : String := ""
  hits : List Hit := []
deriving DecidableEq, Repr

/-- A directory and a name with one slash between them; the name alone for no directory. -/
def joinPath (directory name : String) : String :=
  if directory = "" then name
  else
    String.ofList (Text.trimEndWhere (· == '/') directory.toList) ++ "/" ++ name

/-- The code of an answer that succeeded. -/
def successCode : Int := 200

def Entry.isMedia (extensions : Extensions) (entry : Entry) : Bool :=
  !entry.isDirectory && extensions.isMedia entry.name

/-- How a file of a listing is shown. -/
def PathStyle.show (style : PathStyle) (entry : Entry) : String :=
  match style with
  | .name => entry.name
  | .joined => joinPath entry.path entry.name

def Listing.hits (extensions : Extensions) (style : PathStyle) (listing : Listing) : List Hit :=
  if listing.code = successCode then
    (listing.entries.filter (Entry.isMedia extensions)).map fun entry =>
      ⟨entry.name, entry.path, style.show entry⟩
  else []

/-- The object of a description, if it is a media file. It is shown by its path, or by its name if
it has no path. -/
def Description.hits (extensions : Extensions) (answer : Description) : List Hit :=
  if answer.code = successCode ∧ answer.entry.isMedia extensions then
    [⟨answer.entry.name, answer.entry.path,
      if answer.entry.path = "" then answer.entry.name else answer.entry.path⟩]
  else []

/-- How answers are looked at. -/
structure Inspector where
  extensions : Extensions
  pathStyle : PathStyle

namespace Inspector

def ofSettings (settings : Settings) : Inspector where
  extensions := Extensions.ofList settings.extensions
  pathStyle := settings.pathStyle

/-- The media files of the body that answers a query for a directory. -/
def listHits (inspector : Inspector) (response : Bytes) : List Hit :=
  match decode? Listing.read response with
  | some listing => listing.hits inspector.extensions inspector.pathStyle
  | none => []

/-- The media file of the body that answers a query for an object. -/
def getHits (inspector : Inspector) (response : Bytes) : List Hit :=
  match decode? Description.read response with
  | some answer => answer.hits inspector.extensions
  | none => []

/-- What the bodies of a request and its response tell. -/
def inspect (inspector : Inspector) (category : Category) (request response : Bytes) :
    Inspection :=
  let queriedPath := ((decode? Query.read request).getD {}).path
  match category with
  | .listQuery => ⟨queriedPath, inspector.listHits response⟩
  | .getQuery => ⟨queriedPath, inspector.getHits response⟩
  | _ => {}

end Inspector

end MediaTrail
