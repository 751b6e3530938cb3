/-
**Visitors.** Who sent a request and from where, as far as the request tells. Nothing is verified
here: the host that authenticates users leaves its findings with the request.

* `clientAddress`: the first forwarded address, else the real one named by a proxy, else the remote
  one, else a word for none;
* `Identity.user`: the name of the user, however the host resolves it;
* `Identity.principal`: by what the host knows, or a word for an unknown one.
-/

import MediaTrail.Address
import MediaTrail.Headers
import MediaTrail.Text.Blank

namespace MediaTrail

open Text

/-- What the host knows of the sender of a request. -/
structure Peer where
  /-- The name of the authenticated user. -/
  principal : Option String := none
  remote : Option Address := none
deriving DecidableEq, Repr

/-- The word for no address. -/
def unknownAddress : String := "unknown"

/-- The word for a user who gave no credentials. -/
def unknownUser : String := "unknown"

/-- The word for a user who gave credentials but whose name is not known. -/
def authenticatedUser : String := "authenticated"

/-- A text without the blanks around it, if anything is left. -/
def nonBlank? (text : List Char) : Option String :=
  match trim text with
  | [] => none
  | char :: rest => some (String.ofList (char :: rest))

/-- The address that a chain of proxies names first. -/
def forwardedAddress? (headers : Headers) : Option String :=
  (headers.text? "x-forwarded-for").bind fun text => nonBlank? (text.takeWhile (· != ','))

/-- The address that a proxy names. -/
def realAddress? (headers : Headers) : Option String :=
  (headers.text? "x-real-ip").bind nonBlank?

/-- The address that a request came from. A source that is missing, unreadable or blank gives way to
the next one. -/
def clientAddress (headers : Headers) (peer : Peer) : String :=
  match forwardedAddress? headers with
  | some address => address
  | none =>
    match realAddress? headers with
    | some address => address
    | none =>
      match peer.remote with
      | some address => address.text
      | none => unknownAddress

/-- How users are named, by the fields of their requests and by what the host knows of them. -/
structure Identity where
  user : Headers → Peer → String

/-- Whether a request carries credentials. -/
def hasCredentials (headers : Headers) : Bool :=
  ((headers.text? "authorization").bind nonBlank?).isSome

/-- The word for a user without a name. -/
def credentialWord (headers : Headers) : String :=
  if hasCredentials headers then authenticatedUser else unknownUser

/-- By the authenticated name, else by whether credentials came along. -/
def Identity.principal : Identity where
  user headers peer :=
    match peer.principal with
    | some name => if name = "" then credentialWord headers else name
    | none => credentialWord headers

end MediaTrail
