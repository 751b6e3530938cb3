/-
**Answers about files.** What a file server answers when it is asked for a directory or an object,
and the query itself, as far as the trail looks at them.

* `Entry.read`, `Listing.read`, `Description.read`, `Query.read`: their readers;
* `decode?`: a body that is one of them, and nothing else.
-/

import MediaTrail.Json.Record

namespace MediaTrail

open Json (Member Reader)
open Text (Bytes)

/-- An entry of a directory. -/
structure Entry where
  name : String := ""
  path : String := ""
  isDirectory : Bool := false
deriving DecidableEq, Repr

/-- The answer to a query for a directory. -/
structure Listing where
  code : Int := 0
  entries : List Entry := []
deriving DecidableEq, Repr

/-- The answer to a query for an object. -/
structure Description where
  code : Int := 0
  entry : Entry := {}
deriving DecidableEq, Repr

/-- A query, of which only the path counts. -/
structure Query where
  path : String := ""
deriving DecidableEq, Repr

/-- The members of a written entry. Null stands for a member left out. -/
def Entry.members : List (Member Entry) :=
  [.ofReader "name" false (Json.orNull Json.text "") fun value entry =>
      { entry with name := value },
    .ofReader "path" false (Json.orNull Json.text "") fun value entry =>
      { entry with path := value },
    .ofReader "is_dir" false (Json.orNull Json.boolean false) fun value entry =>
      { entry with isDirectory := value }]

/-- Reads an entry. -/
def Entry.read : Reader Entry :=
  Json.record Entry.members {}

/-- Reads the code of an answer, which has to fit into 64 bits. -/
def readCode : Reader Int :=
  Json.integer (-9223372036854775808) 9223372036854775807

/-- The members of a written listing. -/
def Listing.members : List (Member Listing) :=
  [.ofReader "code" true readCode fun value listing => { listing with code := value },
    .ofReader "content" false (Json.orNull (Json.items Entry.read) []) fun value listing =>
      { listing with entries := value }]

/-- Reads a listing. -/
def Listing.read : Reader Listing :=
  Json.record Listing.members {}

/-- The members of a written description. -/
def Description.members : List (Member Description) :=
  [.ofReader "code" true readCode fun value answer => { answer with code := value },
    .ofReader "data" false (Json.orNull Entry.read {}) fun value answer =>
      { answer with entry := value }]

/-- Reads a description. -/
def Description.read : Reader Description :=
  Json.record Description.members {}

/-- The members of a written query. -/
def Query.members : List (Member Query) :=
  [.ofReader "path" false (Json.orNull Json.text "") fun value query =>
      { query with path := value }]

/-- Reads a query. -/
def Query.read : Reader Query :=
  Json.record Query.members {}

/-- The value that a body is, if it is one. -/
def decode? {α : Type} (read : Reader α) (body : Bytes) : Option α :=
  match Json.whole read body with
  | .ok value => some value
  | .error _ => none

end MediaTrail
