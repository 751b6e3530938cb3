/-
**Excerpts.** The beginning of a body, for a report: all of it if it is short enough, and otherwise
its first bytes with a note of its size.
-/

import MediaTrail.Text.Columns
import MediaTrail.Text.Utf8

namespace MediaTrail

open Text

/-- The note behind an excerpt of a body of so many bytes. -/
def excerptNote (size : Nat) : String :=
  "...(已截断, 共 " ++ String.ofList (decimal size) ++ " 字节)"

/-- A body of at most `limit` bytes as text, or the beginning of a longer one. -/
def excerpt (body : Bytes) (limit : Nat) : String :=
  if body.length ≤ limit then Utf8.lossy body
  else Utf8.lossy (body.take limit) ++ excerptNote body.length

end MediaTrail
