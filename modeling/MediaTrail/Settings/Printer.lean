/-
**Settings as JSON.** The written form of settings: an object of all choices, in their order.

* `Settings.written`: the choices by their names;
* `Settings.toJson`: the object of them.
-/

import MediaTrail.Json.Writing
import MediaTrail.Settings.Reader

namespace MediaTrail

open Text (Bytes)

/-- The name that a value is written with. -/
def writeChoice {α : Type} [DecidableEq α] (names : List (String × α)) (value : α) : Bytes :=
  match names.find? fun (_, meant) => meant = value with
  | some (name, _) => Json.Quotation.write name
  | none => []

namespace Settings

def writeTexts (texts : List String) : Bytes :=
  Json.writeArray (texts.map Json.Quotation.write)

/-- The choices by their names, each with its written value. -/
def written (settings : Settings) : List (String × Bytes) :=
  [("extensions", writeTexts settings.extensions),
    ("ignored_prefixes", writeTexts settings.ignoredPrefixes),
    ("list_endpoint", Json.Quotation.write settings.listEndpoint),
    ("get_endpoint", Json.Quotation.write settings.getEndpoint),
    ("api_paths", writeTexts settings.apiPaths),
    ("mode", writeChoice Mode.names settings.mode),
    ("record_format", writeChoice Layout.names settings.layout),
    ("list_logging", writeChoice Grouping.names settings.grouping),
    ("hit_path_style", writeChoice PathStyle.names settings.pathStyle),
    ("console_echo", Json.writeBool settings.consoleEcho),
    ("debug_body_limit", Json.writeDecimal settings.bodyLimit)]

def toJson (settings : Settings) : Bytes :=
  Json.writeObject settings.written

end Settings

end MediaTrail
