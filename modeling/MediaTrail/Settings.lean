/-
**Settings.** What the host of the trail chooses once, when it starts: which files count as media,
which requests are watched, and how records look.

* `Settings`: the eleven choices, each with its usual value;
* `Settings.problems`: the rules that the choices break, in a fixed order;
* `Problem.message`: how each broken rule is reported.
-/

import MediaTrail.Extensions
import MediaTrail.Text.Quoted

namespace MediaTrail

/-- How much is reported. -/
inductive Mode where
  /-- Records only. -/
  | standard
  /-- Also requests and responses, with their bodies. -/
  | debug
deriving DecidableEq, Repr

/-- How a record is laid out on its line. -/
inductive Layout where
  /-- In columns: time, status, latency, address, method and path, remark. -/
  | columns
  /-- As a sentence: time, address, path, user. -/
  | sentence
deriving DecidableEq, Repr

/-- How the media files of one directory listing are recorded. -/
inductive Grouping where
  /-- One record names all of them. -/
  | aggregated
  /-- One record each. -/
  | perHit
deriving DecidableEq, Repr

/-- How a file of a directory listing is shown. -/
inductive PathStyle where
  /-- By its name. -/
  | name
  /-- By its path and its name. -/
  | joined
deriving DecidableEq, Repr

/-- The choices of the host. -/
structure Settings where
  /-- The extensions of media files, with or without their dots. -/
  extensions : List String := pictureExtensions ++ videoExtensions
  /-- How the paths start that are never looked at. -/
  ignoredPrefixes : List String := ["/assets/", "/images/", "/favicon.ico", "/robots.txt", "/ping"]
  /-- Where directories are listed. -/
  listEndpoint : String := "/api/fs/list"
  /-- Where a single object is described. -/
  getEndpoint : String := "/api/fs/get"
  /-- The further paths that a line filter takes for interface calls. -/
  apiPaths : List String :=
    ["/api/me", "/api/public", "/api/auth", "/api/admin", "/api/fs/other", "/api/fs/dirs"]
  mode : Mode := .standard
  layout : Layout := .columns
  grouping : Grouping := .aggregated
  pathStyle : PathStyle := .name
  /-- Whether records also go to the standard output. -/
  consoleEcho : Bool := false
  /-- How many bytes of a response body are reported. -/
  bodyLimit : Nat := 1000
deriving DecidableEq, Repr

/-- The two paths that answer queries. -/
inductive Endpoint where
  | list
  | get
deriving DecidableEq, Repr

/-- The name of the choice of a path. -/
def Endpoint.key : Endpoint → String
  | .list => "list_endpoint"
  | .get => "get_endpoint"

/-- A broken rule. -/
inductive Problem where
  /-- The path of an endpoint does not start with a slash. -/
  | endpointNotRooted (endpoint : Endpoint) (path : String)
  /-- Both endpoints have the same path. -/
  | endpointsEqual (path : String)
  /-- An ignored beginning is empty, so that every path would be ignored. -/
  | emptyIgnoredPrefix
  /-- A further interface path does not start with a slash. -/
  | apiPathNotRooted
  /-- No byte of a body could be reported. -/
  | zeroBodyLimit
deriving DecidableEq, Repr

def Problem.message : Problem → String
  | .endpointNotRooted endpoint path =>
    endpoint.key ++ " 必须以 '/' 开头: " ++ Text.quoted path
  | .endpointsEqual path => "list_endpoint 与 get_endpoint 不能相同: " ++ Text.quoted path
  | .emptyIgnoredPrefix => "ignored_prefixes 不能包含空字符串"
  | .apiPathNotRooted => "api_paths 中的路径必须以 '/' 开头"
  | .zeroBodyLimit => "debug_body_limit 必须大于 0"

/-- Whether a path starts with a slash. -/
def isRooted (path : String) : Bool :=
  path.toList.head? == some '/'

def problemIf (broken : Bool) (problem : Problem) : List Problem :=
  if broken then [problem] else []

namespace Settings

/-- The rules that the choices break. -/
def problems (settings : Settings) : List Problem :=
  problemIf (!isRooted settings.listEndpoint) (.endpointNotRooted .list settings.listEndpoint) ++
  problemIf (!isRooted settings.getEndpoint) (.endpointNotRooted .get settings.getEndpoint) ++
  problemIf (settings.listEndpoint == settings.getEndpoint)
    (.endpointsEqual settings.listEndpoint) ++
  problemIf (settings.ignoredPrefixes.any String.isEmpty) .emptyIgnoredPrefix ++
  problemIf (settings.apiPaths.any fun path => !isRooted path) .apiPathNotRooted ++
  problemIf (settings.bodyLimit == 0) .zeroBodyLimit

def report (problems : List Problem) : String :=
  "配置无效: " ++ "; ".intercalate (problems.map Problem.message)

end Settings

end MediaTrail
