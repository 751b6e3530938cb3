/-
**Records.** One access to a media file, and the line that tells of it.

* `Layout.render`: the line of a record, in columns or as a sentence;
* `Timestamp.date`: a year of four digits, and one beyond them with its sign.
-/

import MediaTrail.Settings
import MediaTrail.Span

namespace MediaTrail

open Text

/-- A moment, to the second. -/
structure Timestamp where
  year : Int
  month : Nat
  day : Nat
  hour : Nat
  minute : Nat
  second : Nat
deriving DecidableEq, Repr

namespace Timestamp

/-- A year with at least four digits, and with a sign if it has more or lies before the year
zero. -/
def yearText (year : Int) : List Char :=
  if year < 0 then '-' :: zeroPadded 4 year.natAbs
  else if year < 10000 then zeroPadded 4 year.natAbs
  else '+' :: zeroPadded 4 year.natAbs

/-- The date, with a mark between its parts. -/
def date (time : Timestamp) (mark : Char) : List Char :=
  yearText time.year ++ mark :: zeroPadded 2 time.month ++ mark :: zeroPadded 2 time.day

/-- The time of day. -/
def clock (time : Timestamp) : List Char :=
  zeroPadded 2 time.hour ++ ':' :: zeroPadded 2 time.minute ++ ':' :: zeroPadded 2 time.second

end Timestamp

/-- Who asked for what. -/
structure Visit where
  /-- The path of the request, without its query. -/
  path : String
  /-- The path with its query. -/
  pathAndQuery : String
  method : String
  clientAddress : String
  user : String
deriving DecidableEq, Repr

/-- One access. -/
structure Record where
  time : Timestamp
  clientAddress : String
  method : String
  path : String
  user : String
  status : Option Nat
  latency : Option Span
  /-- What else is known about the access. -/
  remark : String
deriving DecidableEq, Repr

/-- The record of a visit that was answered. -/
def Record.ofVisit (time : Timestamp) (visit : Visit) (status : Nat) (latency : Span)
    (remark : String) : Record where
  time := time
  clientAddress := visit.clientAddress
  method := visit.method
  path := visit.path
  user := visit.user
  status := some status
  latency := some latency
  remark := remark

namespace Record

/-- The status column. -/
def statusColumn (record : Record) : List Char :=
  toRight 3 (match record.status with
    | some status => decimal status
    | none => ['-'])

/-- The latency column. -/
def latencyColumn (record : Record) : List Char :=
  toRight 13 (match record.latency with
    | some latency => latency.shown.toList
    | none => ['-'])

/-- The record in columns. -/
def inColumns (record : Record) : List Char :=
  "[GIN] ".toList ++ record.time.date '/' ++ " - ".toList ++ record.time.clock ++
    " | ".toList ++ record.statusColumn ++
    " | ".toList ++ record.latencyColumn ++
    " | ".toList ++ toRight 15 record.clientAddress.toList ++
    " | ".toList ++ toLeft 7 record.method.toList ++
    ' ' :: record.path.toList ++
    " | ".toList ++ record.remark.toList

/-- The record as a sentence. -/
def inSentence (record : Record) : List Char :=
  "时间：".toList ++ record.time.date '-' ++ ' ' :: record.time.clock ++
    " 访问IP：".toList ++ record.clientAddress.toList ++
    " 访问路径：".toList ++ record.path.toList ++
    " 用户：".toList ++ record.user.toList

end Record

/-- The line of a record. -/
def Layout.render (layout : Layout) (record : Record) : String :=
  String.ofList (match layout with
    | .columns => record.inColumns
    | .sentence => record.inSentence)

end MediaTrail
