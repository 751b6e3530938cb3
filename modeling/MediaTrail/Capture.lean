/-
**Capturing a response.** A body that is passed on as it is, while a recorder keeps a copy of its
chunks. When the body ends, the exchange with the copy as its response is delivered, once; when it
fails first, the copy is thrown away and nothing is delivered.

* `Recorder.observe`: what the recorder makes of one poll;
* `Capture.poll`: a poll of the body, and the exchange that it delivers, if it does;
* `Capture.life`: all that its holder does with the body, until it lets go of it;
* `observe_idle`: a recorder that waits for nothing delivers nothing.
-/

import MediaTrail.Body
import MediaTrail.Trail

namespace MediaTrail

open Text (Bytes)

/-- Keeps a copy of a response. -/
structure Recorder where
  /-- The exchange whose response is awaited, until it is delivered or given up. -/
  awaited : Option Exchange
  /-- The bytes so far. -/
  copied : Journal UInt8
deriving DecidableEq, Repr

namespace Recorder

/-- A recorder that waits for a response. -/
def awaiting (exchange : Exchange) : Recorder := ⟨some exchange, .empty⟩

/-- A recorder that waits for nothing. -/
def idle : Recorder := ⟨none, .empty⟩

def copy (recorder : Recorder) : Bytes := recorder.copied.toList

/-- The response is complete: delivers its exchange, if it is still awaited. -/
def complete (recorder : Recorder) : Recorder × Option Exchange :=
  match recorder.awaited with
  | some exchange => (idle, some { exchange with responseBody := recorder.copy })
  | none => (recorder, none)

/-- Notes a poll, and whether the body has ended after it. -/
def observe (recorder : Recorder) (polled : Polled) (atEnd : Bool) : Recorder × Option Exchange :=
  match polled with
  | .chunk bytes =>
    let recorder :=
      if recorder.awaited.isSome then { recorder with copied := recorder.copied.append bytes }
      else recorder
    if atEnd then recorder.complete else (recorder, none)
  | .failure _ => (idle, none)
  | .ended => recorder.complete
  | .pending => (recorder, none)

/-- Whether the exchange is delivered or given up. -/
def isCompleted (recorder : Recorder) : Bool := recorder.awaited.isNone

/-- A recorder that awaits nothing delivers nothing. -/
theorem observe_idle (recorder : Recorder) (polled : Polled) (atEnd : Bool)
    (unawaited : recorder.awaited = none) : recorder.observe polled atEnd =
      ((recorder.observe polled atEnd).1, none) := by
  cases polled <;> simp [observe, complete, unawaited]

end Recorder

/-- A body that is captured while it is passed on. -/
structure Capture (β : Type) where
  body : β
  recorder : Recorder
deriving DecidableEq, Repr

namespace Capture

variable {β : Type} [Source β]

/-- Starts to capture a body. One that has already ended is complete at once. -/
def start (body : β) (exchange : Exchange) : Capture β × Option Exchange :=
  let recorder := Recorder.awaiting exchange
  if Source.atEnd body then
    let (recorder, delivered) := recorder.complete
    (⟨body, recorder⟩, delivered)
  else (⟨body, recorder⟩, none)

def poll (capture : Capture β) : Polled × Capture β × Option Exchange :=
  let (polled, body) := Source.poll capture.body
  let (recorder, delivered) := capture.recorder.observe polled (Source.atEnd body)
  (polled, ⟨body, recorder⟩, delivered)

def pollTrailers (capture : Capture β) : TrailersPolled × Capture β :=
  let (trailers, body) := Source.pollTrailers capture.body
  (trailers, { capture with body := body })

/-- Polls at most `rounds` times, until the body ends or fails. The chunks so far are `done` and the
exchanges delivered so far `delivered`, last ones first. -/
def drainRounds (rounds : Nat) (done : List Bytes) (delivered : List Exchange)
    (capture : Capture β) : Drained × Capture β × List Exchange :=
  match rounds with
  | 0 => (⟨done.reverse, .brokenOff⟩, capture, delivered.reverse)
  | rounds + 1 =>
    let (polled, capture, fresh) := capture.poll
    let delivered := fresh.toList ++ delivered
    match polled with
    | .chunk bytes => drainRounds rounds (bytes :: done) delivered capture
    | .pending => drainRounds rounds done delivered capture
    | .failure error => (⟨done.reverse, .failure error⟩, capture, delivered.reverse)
    | .ended => (⟨done.reverse, .ended⟩, capture, delivered.reverse)

end Capture

/-! ### Holding a captured body -/

/-- What the holder of a body does with it. -/
inductive Use where
  /-- Polls for data. -/
  | poll
  /-- Polls for trailing fields. -/
  | pollTrailers
  /-- Lets go of it, so that nothing more can be done with it. -/
  | drop
deriving DecidableEq, Repr

/-- What came of a use of a captured body: what the poll gave if it was one for data, what is left of
the body, and the exchange that was delivered, if one was. -/
structure Stage (β : Type) where
  polled : Option Polled
  held : Option (Capture β)
  delivered : Option Exchange

namespace Capture

variable {β : Type} [Source β]

/-- Uses a captured body, if it was not let go of. A body that is let go of delivers nothing. -/
def use (held : Option (Capture β)) (use : Use) : Stage β :=
  match held, use with
  | some capture, .poll =>
    let (polled, capture, delivered) := capture.poll
    ⟨some polled, some capture, delivered⟩
  | some capture, .pollTrailers => ⟨none, some capture.pollTrailers.2, none⟩
  | _, .drop => ⟨none, none, none⟩
  | none, _ => ⟨none, none, none⟩

/-- Uses a captured body again and again. -/
def uses (held : Option (Capture β)) : List Use → List (Stage β)
  | [] => []
  | next :: later =>
    let stage := use held next
    stage :: uses stage.held later

/-- The life of a captured body from its first moment on, at which its content may have ended. -/
def life (body : β) (exchange : Exchange) (later : List Use) : List (Stage β) :=
  let (capture, delivered) := start body exchange
  ⟨none, some capture, delivered⟩ :: uses (some capture) later

end Capture

end MediaTrail
