/-
**Settings from JSON.** The choices as members of an object, or as an array of all of them in their
order. Choices left out keep their usual values.

* `Settings.ofJson`: reads settings and refuses those that break a rule;
* `Settings.ofFile`: the same for the contents of a file, which has to be there and to be text.
-/

import MediaTrail.Json.Record
import MediaTrail.Settings

namespace MediaTrail

open Json (Member)
open Text (Bytes)

def Mode.names : List (String × Mode) :=
  [("standard", .standard), ("debug", .debug)]

def Layout.names : List (String × Layout) :=
  [("gin", .columns), ("audit", .sentence)]

def Grouping.names : List (String × Grouping) :=
  [("aggregated", .aggregated), ("per_hit", .perHit)]

def PathStyle.names : List (String × PathStyle) :=
  [("name", .name), ("joined", .joined)]

namespace Settings

def members : List (Member Settings) :=
  [.ofReader "extensions" false (Json.items Json.text) fun value settings =>
      { settings with extensions := value },
    .ofReader "ignored_prefixes" false (Json.items Json.text) fun value settings =>
      { settings with ignoredPrefixes := value },
    .ofReader "list_endpoint" false Json.text fun value settings =>
      { settings with listEndpoint := value },
    .ofReader "get_endpoint" false Json.text fun value settings =>
      { settings with getEndpoint := value },
    .ofReader "api_paths" false (Json.items Json.text) fun value settings =>
      { settings with apiPaths := value },
    .ofReader "mode" false (Json.choice Mode.names) fun value settings =>
      { settings with mode := value },
    .ofReader "record_format" false (Json.choice Layout.names) fun value settings =>
      { settings with layout := value },
    .ofReader "list_logging" false (Json.choice Grouping.names) fun value settings =>
      { settings with grouping := value },
    .ofReader "hit_path_style" false (Json.choice PathStyle.names) fun value settings =>
      { settings with pathStyle := value },
    .ofReader "console_echo" false Json.boolean fun value settings =>
      { settings with consoleEcho := value },
    .ofReader "debug_body_limit" false (Json.integer 0 (UInt64.size - 1)) fun value settings =>
      { settings with bodyLimit := value.toNat }]

/-- Why settings could not be had. -/
inductive LoadError where
  /-- There is no file. -/
  | notFound
  /-- The file is not text. -/
  | notText
  /-- The text is not JSON, or not that of settings. -/
  | unreadable (fault : Json.Fault)
  /-- The settings break rules. -/
  | invalid (problems : List Problem)
deriving DecidableEq, Repr

/-- The settings, unless they break a rule. -/
def checked (settings : Settings) : Except LoadError Settings :=
  match settings.problems with
  | [] => .ok settings
  | problem :: more => .error (.invalid (problem :: more))

/-- Reads settings from the bytes of a text. -/
def ofBytes (bytes : Bytes) : Except LoadError Settings :=
  match Json.whole (Json.record members {}) bytes with
  | .ok settings => settings.checked
  | .error fault => .error (.unreadable fault)

def ofJson (text : String) : Except LoadError Settings :=
  ofBytes (Text.Utf8.encode text)

/-- Reads settings from the contents of a file, if it is there. -/
def ofFile (contents : Option Bytes) : Except LoadError Settings :=
  match contents with
  | none => .error .notFound
  | some bytes =>
    match Text.Utf8.decode? bytes with
    | none => .error .notText
    | some text => ofJson text

end Settings

end MediaTrail
