/-
**Lists and records.** Readers of values made of other values. A record is read into a draft, member
by member; it may come as an object, with its members in any order and others among them, or as an
array of its members in their order.

* `items`: the values of an array;
* `record`: a record from the description of its members.

Both loops take a round for each byte at most: every round reads one, so that the rounds, which are
counted by the bytes themselves, run out only where the bytes do.
-/

import MediaTrail.Json.Kind

namespace MediaTrail.Json

open Text (Bytes)

/-! ### Arrays -/

/-- Behind the start of an array, or behind an item of it: whether another item comes, and the
bytes from its start or, if none comes, behind the bracket. -/
def nextItem (isFirst : Bool) (bytes : Bytes) : Except Fault (Bool × Bytes) :=
  match skipBlanks bytes with
  | [] => .error .endOfInput
  | byte :: rest =>
    if byte = 0x5D then .ok (false, rest)
    else if isFirst then .ok (true, byte :: rest)
    else if byte = 0x2C then
      match skipBlanks rest with
      | [] => .error .endOfInput
      | byte :: rest => if byte = 0x5D then .error .malformed else .ok (true, byte :: rest)
    else .error .malformed

/-- Reads the items of an array from the next one on, behind those already read, last one first. -/
def itemsFrom {α : Type} (read : Reader α) (rounds : Bytes) (isFirst : Bool) (done : List α)
    (bytes : Bytes) : Except Fault (List α × Bytes) :=
  match rounds with
  | [] => .error .endOfInput
  | _ :: rounds => do
    let (more, rest) ← nextItem isFirst bytes
    if more then
      let (value, rest) ← read rest
      itemsFrom read rounds false (value :: done) rest
    else return (done.reverse, rest)

/-- Reads an array of values of one kind. -/
def items {α : Type} (read : Reader α) : Reader (List α) := fun bytes =>
  match skipBlanks bytes with
  | 0x5B :: rest => itemsFrom read rest true [] rest
  | bytes => .error (otherKind bytes)

/-! ### Records -/

/-- A member of a record: its name, whether it has to be given, and how its value goes into the
draft. -/
structure Member (σ : Type) where
  name : String
  required : Bool
  read : Reader (σ → σ)

/-- A member whose value is read and put into the draft. -/
def Member.ofReader {σ α : Type} (name : String) (required : Bool) (read : Reader α)
    (put : α → σ → σ) : Member σ where
  name := name
  required := required
  read := fun bytes => do
    let (value, rest) ← read bytes
    return (put value, rest)

/-- Behind the start of an object, or behind a member of it: the next key if one comes, and the
bytes behind the key or, if none comes, behind the brace. -/
def nextKey (isFirst : Bool) (bytes : Bytes) : Except Fault (Option String × Bytes) :=
  let another (bytes : Bytes) : Except Fault (Option String × Bytes) := do
    let (name, rest) ← key bytes
    return (some name, rest)
  match skipBlanks bytes with
  | [] => .error .endOfInput
  | byte :: rest =>
    if byte = 0x7D then .ok (none, rest)
    else if isFirst then another (byte :: rest)
    else if byte = 0x2C then another rest
    else .error .malformed

/-- Reads the members of an object from the next one on. The names of members already read are
`seen`. -/
def membersFrom {σ : Type} (members : List (Member σ)) (rounds : Bytes) (isFirst : Bool)
    (seen : List String) (draft : σ) (bytes : Bytes) : Except Fault (σ × Bytes) :=
  match rounds with
  | [] => .error .endOfInput
  | _ :: rounds => do
    let (key, rest) ← nextKey isFirst bytes
    match key with
    | none =>
      if members.all fun member => !member.required || seen.contains member.name then
        return (draft, rest)
      else .error .mismatched
    | some key =>
      match members.find? fun member => member.name == key with
      | some member =>
        if seen.contains key then .error .mismatched
        else do
          let rest ← colon rest
          let (put, rest) ← member.read rest
          membersFrom members rounds false (key :: seen) (put draft) rest
      | none => do
        let rest ← colon rest
        let rest ← skip rest
        membersFrom members rounds false seen draft rest

/-- Reads the members of an array in their order. An array that ends early leaves out the rest. -/
def membersInOrder {σ : Type} (isFirst : Bool) (draft : σ) :
    List (Member σ) → Bytes → Except Fault (σ × Bytes)
  | [], bytes =>
    match skipBlanks bytes with
    | [] => .error .endOfInput
    | byte :: rest => if byte = 0x5D then .ok (draft, rest) else .error .malformed
  | member :: later, bytes => do
    let (more, rest) ← nextItem isFirst bytes
    if more then
      let (put, rest) ← member.read rest
      membersInOrder false (put draft) later rest
    else if member.required || later.any Member.required then .error .mismatched
    else return (draft, rest)

/-- Reads a record, starting from a draft that holds what members left out stand for. -/
def record {σ : Type} (members : List (Member σ)) (draft : σ) : Reader σ := fun bytes =>
  match skipBlanks bytes with
  | 0x7B :: rest => membersFrom members rest true [] draft rest
  | 0x5B :: rest => membersInOrder true draft members rest
  | bytes => .error (otherKind bytes)

end MediaTrail.Json
