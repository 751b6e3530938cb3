/-
**Bodies.** The content of a message, which comes in chunks: whoever wants it polls until it ends.
A poll may find nothing yet, and a body may fail; what follows a failure or an end can still be
polled. Behind the data there may be trailing fields, which are polled for on their own.

How a server makes its bodies is left open. A `Source` is whatever can be polled as a body can, and
nothing is said of how its answers hang together. `Content` is a kind of bodies that can be read to
the end and made of bytes as well. Bodies that follow a script (`Body`) are one such kind.

* `ReadError.description`, `ReadError.root`: what is said of a failure, and what it goes back to;
* `Source.poll`, `Source.pollTrailers`: one poll;
* `Source.atEnd`, `Source.size`: what is known without polling;
* `Reads`: what polls give until the first end or failure;
* `Source.drainRounds`: some polls, until the body ends or fails;
* `Content.collect`: the whole content.
-/

import MediaTrail.Headers

namespace MediaTrail

open Text (Bytes)

/-! ### What polls give -/

/-- Why the content of a body cannot be read on. -/
inductive ReadError where
  /-- The stream behind the body failed, for a reason of its own. -/
  | stream (reason : String)
  /-- The writer of the body gave it up. -/
  | aborted
  /-- The stream behind the body reads from another body, and met a failure there. -/
  | relayed (error : ReadError)
deriving DecidableEq, Repr

/-- What a poll gives. -/
inductive Polled where
  | chunk (bytes : Bytes)
  | failure (error : ReadError)
  | pending
  | ended
deriving DecidableEq, Repr

/-- What a poll for trailing fields gives. -/
inductive TrailersPolled where
  /-- The fields, if there are any. -/
  | fields (headers : Option Headers)
  | failure (error : ReadError)
  | pending
deriving DecidableEq, Repr

/-- Bounds for the number of bytes to come. -/
structure SizeBounds where
  lower : Nat
  upper : Option Nat
deriving DecidableEq, Repr

/-- How a series of polls ended. -/
inductive DrainEnd where
  | ended
  | failure (error : ReadError)
  /-- It was broken off before the body ended or failed. -/
  | brokenOff
deriving DecidableEq, Repr

/-- What a series of polls gave. -/
structure Drained where
  chunks : List Bytes
  ending : DrainEnd
deriving DecidableEq, Repr

namespace ReadError

/-- What is said of a body that was given up. -/
def abortText : String := "user body write aborted"

/-- What is said of a failure: its kind, and the reason that the stream gave. -/
def description : ReadError → String
  | .stream reason => "error reading a body from connection: " ++ reason
  | .aborted => abortText
  | .relayed error => "error reading a body from connection: " ++ error.description

/-- The reason right under a failure: what the stream said, or what is said of the failure itself
if no stream gave a reason. -/
def reason : ReadError → String
  | .stream reason => reason
  | .aborted => abortText
  | .relayed error => error.description

/-- The text that a failure goes back to, through whatever bodies it was relayed. -/
def root : ReadError → String
  | .stream reason => reason
  | .aborted => abortText
  | .relayed error => error.root

end ReadError

/-! ### What can be polled -/

/-- What can be polled as a body can. Nothing is said of how its answers hang together: it may go on
after a failure or after its end, and may know of its end before a poll tells of it. -/
class Source (β : Type) where
  /-- Polls for data. -/
  poll : β → Polled × β
  /-- Polls for trailing fields. -/
  pollTrailers : β → TrailersPolled × β
  /-- Whether the content is known to have ended. -/
  atEnd : β → Bool
  /-- What is known of the number of bytes to come. -/
  size : β → SizeBounds

section

variable {β : Type} [Source β]

/-- Polls at most `rounds` times, until the body ends or fails. The chunks so far are `done`, last
one first. -/
def Source.drainRounds (rounds : Nat) (done : List Bytes) (body : β) : Drained × β :=
  match rounds with
  | 0 => (⟨done.reverse, .brokenOff⟩, body)
  | rounds + 1 =>
    match Source.poll body with
    | (.chunk bytes, body) => drainRounds rounds (bytes :: done) body
    | (.pending, body) => drainRounds rounds done body
    | (.failure error, body) => (⟨done.reverse, .failure error⟩, body)
    | (.ended, body) => (⟨done.reverse, .ended⟩, body)

/-- Whoever polls until the body ends or fails, waiting where nothing is there yet, gets all of these
bytes, or the failure that cuts them off. -/
inductive Reads : β → Except ReadError Bytes → Prop
  | ended {body after : β} (polled : Source.poll body = (.ended, after)) : Reads body (.ok [])
  | failure {body after : β} {error : ReadError}
    (polled : Source.poll body = (.failure error, after)) : Reads body (.error error)
  | pending {body after : β} {result : Except ReadError Bytes}
    (polled : Source.poll body = (.pending, after)) (later : Reads after result) :
    Reads body result
  | chunk {body after : β} {bytes : Bytes} {result : Except ReadError Bytes}
    (polled : Source.poll body = (.chunk bytes, after)) (later : Reads after result) :
    Reads body (result.map (bytes ++ ·))

/-- A body is read in one way only. -/
theorem Reads.unique {body : β} {first second : Except ReadError Bytes} (reads : Reads body first)
    (other : Reads body second) : first = second := by
  induction reads generalizing second with
  | ended polled =>
    cases other with
    | ended polled' => rfl
    | failure polled' | pending polled' | chunk polled' => cases polled.symm.trans polled'
  | failure polled =>
    cases other with
    | failure polled' =>
      cases polled.symm.trans polled'
      rfl
    | ended polled' | pending polled' | chunk polled' => cases polled.symm.trans polled'
  | pending polled later ih =>
    cases other with
    | pending polled' later' =>
      cases polled.symm.trans polled'
      exact ih later'
    | ended polled' | failure polled' | chunk polled' => cases polled.symm.trans polled'
  | chunk polled later ih =>
    cases other with
    | chunk polled' later' =>
      cases polled.symm.trans polled'
      rw [ih later']
    | ended polled' | failure polled' | pending polled' => cases polled.symm.trans polled'

end

/-- A kind of bodies that are read to the end and made of bytes. -/
class Content (β : Type) extends Source β where
  /-- A body of some bytes. -/
  ofBytes : Bytes → β
  /-- The whole content, or the failure that cuts it off; nothing if polls go on without end. -/
  collect : β → Option (Except ReadError Bytes)
  /-- Whether whoever collects the content has to wait for some of it. -/
  waits : β → Bool
  collect_eq_some_iff (body : β) (result : Except ReadError Bytes) :
    collect body = some result ↔ Reads body result
  reads_ofBytes (bytes : Bytes) : Reads (ofBytes bytes) (.ok bytes)

/-! ### Bodies that follow a script -/

/-- What a stream gives next. -/
inductive Item where
  | chunk (bytes : Bytes)
  | failure (error : ReadError)
  /-- Nothing yet. -/
  | pending
  /-- The end, behind which the stream may go on. -/
  | ended
deriving DecidableEq, Repr

/-- The content of a message. -/
inductive Body where
  /-- Chunks whose length is known. -/
  | sized (chunks : List Bytes)
  /-- Items of unknown length, and what is given to polls for trailing fields, one by one. -/
  | stream (items : List Item) (trailers : List TrailersPolled)
deriving DecidableEq, Repr

/-- A poll gives the next item. -/
def Item.polled : Item → Polled
  | .chunk bytes => .chunk bytes
  | .failure error => .failure error
  | .pending => .pending
  | .ended => .ended

/-- Whether an item is the last one that is read. -/
def Item.isLast : Item → Bool
  | .failure _ | .ended => true
  | .chunk _ | .pending => false

namespace Body

def empty : Body := .sized []

/-- One chunk, whose length is known. -/
def full (bytes : Bytes) : Body := .sized [bytes]

def ofBytes (bytes : Bytes) : Body :=
  if bytes.isEmpty then empty else full bytes

def poll : Body → Polled × Body
  | .sized [] => (.ended, .sized [])
  | .sized (bytes :: chunks) => (.chunk bytes, .sized chunks)
  | .stream [] trailers => (.ended, .stream [] trailers)
  | .stream (item :: items) trailers => (item.polled, .stream items trailers)

/-- Polls for trailing fields. Once all is given there are none. -/
def pollTrailers : Body → TrailersPolled × Body
  | .stream items (first :: later) => (first, .stream items later)
  | body => (.fields none, body)

/-- Whether the body is known to have ended. -/
def atEnd : Body → Bool
  | .sized chunks => chunks.isEmpty
  | .stream _ _ => false

/-- What is known of the number of bytes to come. -/
def size : Body → SizeBounds
  | .sized chunks => ⟨chunks.flatten.length, some chunks.flatten.length⟩
  | .stream _ _ => ⟨0, none⟩

/-- How many polls give something before the body is at the end of its script. -/
def remaining : Body → Nat
  | .sized chunks => chunks.length
  | .stream items _ => items.length

/-- Whether polls until the body ends or fails find nothing at least once. -/
def waits : Body → Bool
  | .sized _ => false
  | .stream items _ => (items.takeWhile fun item => !item.isLast).contains .pending

/-- What is read of some items. -/
def readItems : List Item → Except ReadError Bytes
  | [] => .ok []
  | .chunk bytes :: items => (readItems items).map (bytes ++ ·)
  | .failure error :: _ => .error error
  | .pending :: items => readItems items
  | .ended :: _ => .ok []

/-- The whole content, or the failure that cuts it off. -/
def collect : Body → Except ReadError Bytes
  | .sized chunks => .ok chunks.flatten
  | .stream items _ => readItems items

instance : Source Body := ⟨poll, pollTrailers, atEnd, size⟩

theorem reads_sized (chunks : List Bytes) : Reads (Body.sized chunks) (.ok chunks.flatten) := by
  induction chunks with
  | nil => exact .ended rfl
  | cons bytes chunks ih => exact .chunk rfl ih

theorem reads_stream (items : List Item) (trailers : List TrailersPolled) :
    Reads (Body.stream items trailers) (readItems items) := by
  induction items with
  | nil => exact .ended rfl
  | cons item items ih =>
    cases item with
    | chunk bytes => exact .chunk rfl ih
    | failure error => exact .failure rfl
    | pending => exact .pending rfl ih
    | ended => exact .ended rfl

/-- What is collected is what is read. -/
theorem reads_collect (body : Body) : Reads body body.collect := by
  cases body with
  | sized chunks => exact reads_sized chunks
  | stream items trailers => exact reads_stream items trailers

theorem reads_ofBytes (bytes : Bytes) : Reads (ofBytes bytes) (.ok bytes) := by
  cases bytes with
  | nil => exact reads_sized []
  | cons byte rest =>
    have reads := reads_sized [byte :: rest]
    rwa [List.flatten_singleton] at reads

instance : Content Body where
  ofBytes := ofBytes
  collect body := some body.collect
  waits := waits
  collect_eq_some_iff body result := by
    rw [Option.some_inj]
    constructor
    · rintro rfl
      exact body.reads_collect
    · exact body.reads_collect.unique
  reads_ofBytes := reads_ofBytes

end Body

end MediaTrail
