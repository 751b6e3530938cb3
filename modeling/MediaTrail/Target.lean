/-
**Request targets.** What a request asks for: a path on this host, a whole address of a resource, a
host alone, or the host itself (`*`). A fragment is dropped; a query starts at the first question
mark behind the path.

* `Target.ofText`: the target of a text;
* `Target.path`, `Target.pathAndQuery`, `Target.text`: what others see of it.
-/

namespace MediaTrail

/-- What a request asks for. -/
inductive Target where
  /-- A path and its query on this host. -/
  | origin (resource : List Char)
  /-- A scheme, a host, and a path with its query, which may be empty. -/
  | absolute (scheme authority resource : List Char)
  /-- A host alone. -/
  | host (authority : List Char)
deriving DecidableEq, Repr

namespace Target

/-- What stands in front of a fragment. -/
def withoutFragment (text : List Char) : List Char :=
  text.takeWhile (· != '#')

/-- The part of a resource in front of its query. -/
def resourcePath (resource : List Char) : List Char :=
  resource.takeWhile (· != '?')

/-- The query of a resource, with its question mark. -/
def resourceQuery (resource : List Char) : List Char :=
  resource.dropWhile (· != '?')

/-- A path, or the root for none. -/
def orRoot (path : List Char) : List Char :=
  if path = [] then ['/'] else path

/-- A scheme in lower case, if it is one of the web; any other as it is. -/
def schemeText (scheme : List Char) : List Char :=
  let lower := scheme.map Char.toLower
  if lower = "http".toList ∨ lower = "https".toList then lower else scheme

/-- Splits a text behind the first `://`. -/
def splitScheme (text : List Char) : Option (List Char × List Char) :=
  let scheme := text.takeWhile (· != ':')
  match text.dropWhile (· != ':') with
  | ':' :: '/' :: '/' :: rest => some (scheme, rest)
  | _ => none

def ofText (text : String) : Target :=
  match text.toList with
  | ['*'] => .origin ['*']
  | '/' :: rest => .origin (withoutFragment ('/' :: rest))
  | chars =>
    match splitScheme chars with
    | some (scheme, rest) =>
      let inAuthority (char : Char) : Bool := char != '/' && char != '?' && char != '#'
      .absolute (schemeText scheme) (rest.takeWhile inAuthority)
        (withoutFragment (rest.dropWhile inAuthority))
    | none => .host chars

def path (target : Target) : String :=
  String.ofList (match target with
    | .origin resource => orRoot (resourcePath resource)
    | .absolute _ _ resource => orRoot (resourcePath resource)
    | .host _ => [])

def pathAndQuery (target : Target) : String :=
  String.ofList (match target with
    | .origin resource => orRoot resource
    | .absolute _ _ resource => orRoot resource
    | .host _ => [])

def text (target : Target) : String :=
  String.ofList (match target with
    | .origin resource => orRoot (resourcePath resource) ++ resourceQuery resource
    | .absolute scheme authority resource =>
      scheme ++ "://".toList ++ authority ++ orRoot (resourcePath resource) ++
        resourceQuery resource
    | .host authority => authority)

end Target

end MediaTrail
