/-
**Events.** What the trail reports about itself to the diagnostics of its host: records as
structured events, and in debug mode the requests and responses that pass by.

* `Event`: the kinds of events, by what they tell;
* `Event.message`, `Event.fields`, `Event.level`: how each reads.
-/

import MediaTrail.Record
import MediaTrail.Writer

namespace MediaTrail

open Text (decimal)

/-- Why a sink did not take a line. -/
inductive SinkError where
  /-- Its stream failed. -/
  | io (fault : IoFault)
  /-- Its stream went down while it was in use. -/
  | poisoned
  /-- Nobody is left to take lines. -/
  | closed
deriving DecidableEq, Repr

/-- How the failure of a sink is reported. -/
def SinkError.message : SinkError → String
  | .io fault => "写入日志失败: " ++ fault.text
  | .poisoned => "日志输出锁已被污染"
  | .closed => "日志通道已关闭"

/-- The importance of an event. -/
inductive Level where
  | info
  | debug
deriving DecidableEq, Repr

/-- The value of a field of an event. -/
inductive FieldValue where
  | text (value : String)
  | number (value : Nat)
deriving DecidableEq, Repr

/-- An event. -/
inductive Event where
  /-- A record with its line. -/
  | recorded (record : Record) (line : String)
  /-- A sink behind a channel did not take a line. -/
  | rejected (error : SinkError)
  /-- A channel handed on its last line. -/
  | channelEnded
  /-- A monitor was set up, with so many extensions. -/
  | initialized (extensions : Nat) (mode : Mode)
  /-- A request came in. -/
  | request (method pathAndQuery : String)
  /-- The body of that request. -/
  | requestBody (text : String)
  /-- A request that led to a record was answered. -/
  | mediaResponse (status : Nat) (latency : Span)
  /-- Another request was answered. -/
  | response (method pathAndQuery : String) (status : Nat) (latency : Span)
  /-- The beginning of the body of that response. -/
  | responseBody (text : String)
deriving DecidableEq, Repr

def Mode.word : Mode → String
  | .standard => "Standard"
  | .debug => "Debug"

namespace Event

/-- The importance of an event: records count as information, all else serves debugging. -/
def level : Event → Level
  | .recorded .. => .info
  | _ => .debug

def isRecord : Event → Bool
  | .recorded .. => true
  | _ => false

/-- The status and the latency of a response. -/
def outcomeText (status : Nat) (latency : Span) : String :=
  "状态码: " ++ String.ofList (decimal status) ++ ", 延迟: " ++ latency.shown

def message : Event → String
  | .recorded _ line => line
  | .rejected _ => "delegate sink rejected access record"
  | .channelEnded => "media audit channel sink terminated"
  | .initialized _ _ => "media audit middleware initialized"
  | .request method pathAndQuery => "[请求] " ++ method ++ " " ++ pathAndQuery
  | .requestBody text => "[请求体] " ++ text
  | .mediaResponse status latency => "[响应] " ++ outcomeText status latency
  | .response method pathAndQuery status latency =>
    "[响应] " ++ method ++ " " ++ pathAndQuery ++ " | " ++ outcomeText status latency
  | .responseBody text => "[响应体] " ++ text

/-- A field that is there only if it has a value. -/
def optionalField (name : String) (value : Option Nat) : List (String × FieldValue) :=
  match value with
  | some value => [(name, .number value)]
  | none => []

/-- The fields of an event. A latency is given in whole microseconds, in 64 bits. -/
def fields : Event → List (String × FieldValue)
  | .recorded record _ =>
    [("client_ip", .text record.clientAddress), ("method", .text record.method),
      ("path", .text record.path), ("user", .text record.user)] ++
      optionalField "status" record.status ++
      optionalField "latency_us" (record.latency.map fun latency =>
        latency.microseconds % UInt64.size)
  | .rejected error => [("error", .text error.message)]
  | .initialized extensions mode =>
    [("extensions", .number extensions), ("mode", .text mode.word)]
  | _ => []

end Event

end MediaTrail
