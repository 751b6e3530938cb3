/-
**Classes of requests.** A request is looked at by its path alone. Its class says whether it touches
a media file itself, asks about files, or is of no interest.

* `Classifier.classify`: the first class that fits, in the order ignored, media file, listing,
  object, other;
* `Classifier.apiPaths`: the paths of interface calls, each once.
-/

import MediaTrail.Settings

namespace MediaTrail

/-- The class of a request. -/
inductive Category where
  /-- Static files of the site, never looked at. -/
  | ignored
  /-- A media file itself. -/
  | directMedia
  /-- The listing of a directory. -/
  | listQuery
  /-- The description of a single object. -/
  | getQuery
  /-- Anything else. -/
  | other
deriving DecidableEq, Repr

/-- Whether the bodies of request and response are needed to know which files were accessed. -/
def Category.needsCapture : Category → Bool
  | .listQuery | .getQuery => true
  | .ignored | .directMedia | .other => false

/-- The part of a path in front of its query. -/
def withoutQuery (path : String) : String :=
  String.ofList (path.toList.takeWhile (· != '?'))

/-- What the class of a request depends on. -/
structure Classifier where
  extensions : Extensions
  ignoredPrefixes : List String
  listEndpoint : String
  getEndpoint : String
  /-- The paths of interface calls beside the two endpoints. -/
  extraApiPaths : List String

namespace Classifier

def ofSettings (settings : Settings) : Classifier where
  extensions := Extensions.ofList settings.extensions
  ignoredPrefixes := settings.ignoredPrefixes
  listEndpoint := settings.listEndpoint
  getEndpoint := settings.getEndpoint
  extraApiPaths := settings.apiPaths

/-- Whether a path starts as an ignored one. -/
def isIgnored (classifier : Classifier) (path : String) : Bool :=
  classifier.ignoredPrefixes.any fun start => start.toList.isPrefixOf path.toList

def classifyPath (classifier : Classifier) (path : String) : Category :=
  if classifier.isIgnored path then .ignored
  else if classifier.extensions.isMedia path then .directMedia
  else if path = classifier.listEndpoint then .listQuery
  else if path = classifier.getEndpoint then .getQuery
  else .other

/-- The class of a path, whose query plays no part. -/
def classify (classifier : Classifier) (path : String) : Category :=
  classifier.classifyPath (withoutQuery path)

/-- The paths of interface calls: the two endpoints, then each other path at its first place. -/
def apiPaths (classifier : Classifier) : List String :=
  classifier.extraApiPaths.foldl
    (fun paths path => if paths.contains path then paths else paths ++ [path])
    [classifier.listEndpoint, classifier.getEndpoint]

/-- Whether a path, its query aside, is that of an interface call. -/
def isApiPath (classifier : Classifier) (path : String) : Bool :=
  classifier.apiPaths.contains (withoutQuery path)

end Classifier

end MediaTrail
