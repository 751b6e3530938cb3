/-
**Filtering a line stream.** In front of a writer, each buffer of a rendered log is passed on whole
or left out whole, as its text decides. Bytes that are no text are replaced for the decision only.

* `LineFilter.write`: one buffer, which is reported as written also when it is left out;
* `LineFilter.serve`: a call of the host, with what the host is told;
* `write_dropped`: a buffer that is left out does not touch the writer.
-/

import MediaTrail.Line
import MediaTrail.Writer

namespace MediaTrail

open Text (Bytes)

/-- A filter in front of a writer. -/
structure LineFilter where
  classifier : Classifier
  writer : Writer

namespace LineFilter

/-- Whether a buffer is passed on. -/
def forwards (filter : LineFilter) (buffer : Bytes) : Bool :=
  filter.classifier.forwards (Text.Utf8.lossy buffer)

/-- Writes a buffer. -/
def write (filter : LineFilter) (buffer : Bytes) : LineFilter × Written :=
  if filter.forwards buffer then
    let (writer, written) := filter.writer.writeAll buffer
    ({ filter with writer := writer }, written)
  else (filter, .done)

/-- Flushes the writer. -/
def flush (filter : LineFilter) : LineFilter × Written :=
  let (writer, written) := filter.writer.flush
  ({ filter with writer := writer }, written)

/-! ### Calls of a host -/

/-- What a host asks of a filter. -/
inductive Call where
  | write (buffer : Bytes)
  | flush
deriving DecidableEq, Repr

/-- What the host is told. -/
inductive Answer where
  /-- So many bytes count as written. -/
  | wrote (count : Nat)
  | flushed
  | failed (fault : IoFault)
  | crashed
deriving DecidableEq, Repr

/-- Serves a call. A buffer counts as written with all its bytes, whether or not it was passed on. -/
def serve (filter : LineFilter) : Call → LineFilter × Answer
  | .write buffer =>
    match filter.write buffer with
    | (filter, .done) => (filter, .wrote buffer.length)
    | (filter, .failed fault) => (filter, .failed fault)
    | (filter, .crashed) => (filter, .crashed)
  | .flush =>
    match filter.flush with
    | (filter, .done) => (filter, .flushed)
    | (filter, .failed fault) => (filter, .failed fault)
    | (filter, .crashed) => (filter, .crashed)

/-- Serves calls one after the other. -/
def serveAll (filter : LineFilter) : List Call → LineFilter × List Answer
  | [] => (filter, [])
  | call :: later =>
    let (filter, answer) := filter.serve call
    let (filter, answers) := filter.serveAll later
    (filter, answer :: answers)

/-- A buffer that is left out does not touch the writer. -/
theorem write_dropped (filter : LineFilter) (buffer : Bytes)
    (dropped : filter.forwards buffer = false) : filter.write buffer = (filter, .done) := by
  simp [write, dropped]

end LineFilter

end MediaTrail
