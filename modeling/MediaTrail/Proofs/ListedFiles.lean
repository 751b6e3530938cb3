/-
**The media files of a written listing.** What is found in the answer to a query for a directory
depends on what the answer says and not on how it is written: on the order of members, on blanks, on
the forms of characters, on members left out or null, on members nobody knows.

An answer is described by the grammar (`Listing.IsWritten`), from the keys and texts of its members on.

* `entry_gives`, `entry_refuses`: an entry, and one with a member of a wrong kind;
* `listHits_of_written`: the media files of an answer that succeeded, in their order; none of an answer
  that did not, and none if a single entry has a member of a wrong kind.
-/

import MediaTrail.Inspection
import MediaTrail.Proofs.JsonOutcomes
import MediaTrail.Proofs.JsonWriting

namespace MediaTrail

open Json
open Text (Bytes)

/-! ### Written answers -/

/-- The members of an object are those of this entry, and others. -/
structure Entry.Fits (entry : Entry) (pairs : List (String × Bytes)) : Prop where
  once : ∀ name ∈ ["name", "path", "is_dir"], (pairs.map Prod.fst).count name ≤ 1
  name : Holds IsText "" entry.name (pairs.lookup "name")
  path : Holds IsText "" entry.path (pairs.lookup "path")
  isDirectory : Holds (fun value text => text = truthText value) false entry.isDirectory
    (pairs.lookup "is_dir")

/-- The texts of an entry. -/
def Entry.IsWritten (entry : Entry) (text : Bytes) : Prop :=
  ∃ pairs, IsObject pairs text ∧ entry.Fits pairs

/-- The code of an answer is given, and fits into 64 bits. -/
def HasCode (code : Int) (pairs : List (String × Bytes)) : Prop :=
  -9223372036854775808 ≤ code ∧ code ≤ 9223372036854775807 ∧
    ∃ text, pairs.lookup "code" = some text ∧ IsInteger code text

/-- The members of an object are those of this listing, and others. -/
structure Listing.Fits (listing : Listing) (pairs : List (String × Bytes)) : Prop where
  once : ∀ name ∈ ["code", "content"], (pairs.map Prod.fst).count name ≤ 1
  code : HasCode listing.code pairs
  entries : Holds (fun entries text => ∃ texts, IsArray texts text ∧
    List.Forall₂ Entry.IsWritten entries texts) [] listing.entries (pairs.lookup "content")

/-- What a member of an entry puts into a draft: the member of this entry. -/
def Entry.put? (entry : Entry) (name : String) : Option (Entry → Entry) :=
  if name = "name" then some fun draft => { draft with name := entry.name }
  else if name = "path" then some fun draft => { draft with path := entry.path }
  else some fun draft => { draft with isDirectory := entry.isDirectory }

/-- A draft holds the member of an entry that has this name. -/
def Entry.Agrees (entry : Entry) (name : String) (draft : Entry) : Prop :=
  (name = "name" → draft.name = entry.name) ∧ (name = "path" → draft.path = entry.path) ∧
    (name = "is_dir" → draft.isDirectory = entry.isDirectory)

/-- Putting a member of an entry makes a draft agree with the entry there and nowhere less. -/
theorem Entry.agrees_put (entry : Entry) {name : String}
    (known : ∃ member ∈ Entry.members, member.name = name) :
    ∃ put, entry.put? name = some put ∧ ∀ draft, entry.Agrees name (put draft) ∧
      ∀ other, other ≠ name → entry.Agrees other draft → entry.Agrees other (put draft) := by
  obtain ⟨member, inMembers, rfl⟩ := known
  simp only [Entry.members, List.mem_cons, List.not_mem_nil, or_false] at inMembers
  rcases inMembers with rfl | rfl | rfl
  · refine ⟨fun draft => { draft with name := entry.name }, rfl, fun draft => ⟨?_, ?_⟩⟩
    · exact ⟨fun _ => rfl, fun same => absurd same (by decide), fun same => absurd same (by decide)⟩
    · rintro other - ⟨-, path, isDirectory⟩
      exact ⟨fun _ => rfl, path, isDirectory⟩
  · refine ⟨fun draft => { draft with path := entry.path }, rfl, fun draft => ⟨?_, ?_⟩⟩
    · exact ⟨fun same => absurd same (by decide), fun _ => rfl, fun same => absurd same (by decide)⟩
    · rintro other - ⟨name, -, isDirectory⟩
      exact ⟨name, fun _ => rfl, isDirectory⟩
  · refine ⟨fun draft => { draft with isDirectory := entry.isDirectory }, rfl, fun draft => ⟨?_, ?_⟩⟩
    · exact ⟨fun same => absurd same (by decide), fun same => absurd same (by decide), fun _ => rfl⟩
    · rintro other - ⟨name, path, -⟩
      exact ⟨name, path, fun _ => rfl⟩

section

variable {entry : Entry} {pairs : List (String × Bytes)}

theorem Entry.Fits.count_le (fits : entry.Fits pairs) :
    ∀ member ∈ Entry.members, (pairs.map Prod.fst).count member.name ≤ 1 := by
  intro member inMembers
  refine fits.once _ ?_
  simp only [Entry.members, List.mem_cons, List.not_mem_nil, or_false] at inMembers
  rcases inMembers with rfl | rfl | rfl <;> simp [Member.ofReader]

/-- A known member of an object that fits puts the member of the entry. -/
theorem Entry.Fits.gives (fits : entry.Fits pairs) {pair : String × Bytes} (inPairs : pair ∈ pairs)
    (isValue : IsValue pair.2) {member : Member Entry}
    (found : member? Entry.members pair.1 = some member) :
    Gives member.read pair.2 (entry.put? pair.1) := by
  obtain ⟨name, value⟩ := pair
  obtain ⟨inMembers, rfl⟩ := of_member? found
  have looked := lookup_of_mem inPairs (fits.count_le member inMembers)
  simp only [Entry.members, List.mem_cons, List.not_mem_nil, or_false] at inMembers
  rcases inMembers with rfl | rfl | rfl
  · exact ofReader_gives (gives_of_holds isValue (looked ▸ fits.name) (fun _ => text_gives)
      (fun _ => ne_nullText_of_isText)) _ _ _
  · exact ofReader_gives (gives_of_holds isValue (looked ▸ fits.path) (fun _ => text_gives)
      (fun _ => ne_nullText_of_isText)) _ _ _
  · refine ofReader_gives (gives_of_holds isValue (looked ▸ fits.isDirectory) ?_ ?_) _ _ _
    · rintro _ rfl
      exact boolean_gives entry.isDirectory
    · rintro _ rfl
      cases entry.isDirectory <;> decide

theorem Entry.Fits.filled_eq (fits : entry.Fits pairs) :
    filled Entry.members [] {} (pairs.map fun pair => (pair.1, entry.put? pair.1)) = some entry := by
  have whole : ∀ draft, (∀ member ∈ Entry.members, entry.Agrees member.name draft) →
      draft = entry := by
    intro draft agrees
    have name := (agrees _ List.mem_cons_self).1 rfl
    have path := (agrees _ (List.mem_cons_of_mem _ List.mem_cons_self)).2.1 rfl
    have isDirectory := (agrees _ (List.mem_cons_of_mem _ (List.mem_cons_of_mem _
      List.mem_cons_self))).2.2 rfl
    cases draft
    cases entry
    rw [Entry.mk.injEq]
    exact ⟨name, path, isDirectory⟩
  refine filled_eq_some whole ?_ (fun _ never => absurd never List.not_mem_nil) ?_ ?_ ?_
  · rw [map_fst_given]
    exact fits.count_le
  · intro pair inPairs known
    obtain ⟨given, -, rfl⟩ := List.mem_map.mp inPairs
    exact entry.agrees_put known
  · rw [map_fst_given]
    intro member _ absent
    refine ⟨fun same => ?_, fun same => ?_, fun same => ?_⟩
    · exact (fits.name.of_notMem (same ▸ absent)).symm
    · exact (fits.path.of_notMem (same ▸ absent)).symm
    · exact (fits.isDirectory.of_notMem (same ▸ absent)).symm
  · intro member inMembers isRequired
    simp only [Entry.members, List.mem_cons, List.not_mem_nil, or_false] at inMembers
    rcases inMembers with rfl | rfl | rfl <;> cases isRequired

/-- **A written entry is read as that entry.** -/
theorem entry_gives {text : Bytes} (isWritten : entry.IsWritten text) :
    Gives Entry.read text (some entry) := by
  obtain ⟨pairs, isObject, fits⟩ := isWritten
  have result := record_gives isObject (fun pair inPairs member found =>
    fits.gives inPairs (isObject.1 pair inPairs) found) {}
  rw [fits.filled_eq] at result
  exact result

end

/-- What a member of an entry is read as depends on its value alone. -/
theorem Entry.members_settle : ∀ member ∈ Entry.members, Settles member.read := by
  intro member inMembers
  simp only [Entry.members, List.mem_cons, List.not_mem_nil, or_false] at inMembers
  rcases inMembers with rfl | rfl | rfl
  · exact (text_settles.orNull "").ofReader _ _ _
  · exact (text_settles.orNull "").ofReader _ _ _
  · exact (boolean_settles.orNull false).ofReader _ _ _

/-- The code of an answer is given, or it is a zero with a minus sign, which is refused. -/
theorem HasCode.gives {code : Int} {pairs : List (String × Bytes)} (hasCode : HasCode code pairs)
    {value : Bytes} (looked : pairs.lookup "code" = some value) :
    Gives readCode value (some code) ∨ code = 0 ∧ Gives readCode value none := by
  obtain ⟨least, most, text, given, isInteger⟩ := hasCode
  obtain rfl := Option.some.inj (given.symm.trans looked)
  exact integer_gives isInteger (Int.le_refl _) (Int.le_refl _) ⟨least, most⟩

theorem ne_nullText_of_isArray {texts : List Bytes} {text : Bytes} (isArray : IsArray texts text) :
    text ≠ nullText := by
  obtain ⟨-, row, -, rfl⟩ := isArray
  intro same
  exact absurd (List.cons.inj same).1 (by decide)

theorem entries_give {entries : List Entry} {text : Bytes}
    (isWritten : ∃ texts, IsArray texts text ∧ List.Forall₂ Entry.IsWritten entries texts) :
    Gives (items Entry.read) text (some entries) := by
  obtain ⟨texts, isArray, each⟩ := isWritten
  have gives : List.Forall₂ (Gives Entry.read) texts (entries.map some) := by
    rw [List.forall₂_map_right_iff]
    exact List.Forall₂.flip (each.imp fun _ _ isWritten => entry_gives isWritten)
  have result := items_gives isArray gives
  rw [mapM_some] at result
  exact result

/-- What a member of a listing puts into a draft: the member of this listing. -/
def Listing.put? (listing : Listing) (name : String) : Option (Listing → Listing) :=
  if name = "code" then some fun draft => { draft with code := listing.code }
  else some fun draft => { draft with entries := listing.entries }

/-- A draft holds the member of a listing that has this name. -/
def Listing.Agrees (listing : Listing) (name : String) (draft : Listing) : Prop :=
  (name = "code" → draft.code = listing.code) ∧ (name = "content" → draft.entries = listing.entries)

theorem Listing.agrees_put (listing : Listing) {name : String}
    (known : ∃ member ∈ Listing.members, member.name = name) :
    ∃ put, listing.put? name = some put ∧ ∀ draft, listing.Agrees name (put draft) ∧
      ∀ other, other ≠ name → listing.Agrees other draft → listing.Agrees other (put draft) := by
  obtain ⟨member, inMembers, rfl⟩ := known
  simp only [Listing.members, List.mem_cons, List.not_mem_nil, or_false] at inMembers
  rcases inMembers with rfl | rfl
  · refine ⟨fun draft => { draft with code := listing.code }, rfl, fun draft => ⟨?_, ?_⟩⟩
    · exact ⟨fun _ => rfl, fun same => absurd same (by decide)⟩
    · rintro other - ⟨-, entries⟩
      exact ⟨fun _ => rfl, entries⟩
  · refine ⟨fun draft => { draft with entries := listing.entries }, rfl, fun draft => ⟨?_, ?_⟩⟩
    · exact ⟨fun same => absurd same (by decide), fun _ => rfl⟩
    · rintro other - ⟨code, -⟩
      exact ⟨code, fun _ => rfl⟩

theorem Listing.count_le {pairs : List (String × Bytes)}
    (once : ∀ name ∈ ["code", "content"], (pairs.map Prod.fst).count name ≤ 1) :
    ∀ member ∈ Listing.members, (pairs.map Prod.fst).count member.name ≤ 1 := by
  intro member inMembers
  refine once _ ?_
  simp only [Listing.members, List.mem_cons, List.not_mem_nil, or_false] at inMembers
  rcases inMembers with rfl | rfl <;> simp [Member.ofReader]

section

variable {listing : Listing} {pairs : List (String × Bytes)}

theorem Listing.Fits.gives_entries (fits : listing.Fits pairs) {value : Bytes}
    (isValue : IsValue value) (looked : pairs.lookup "content" = some value) :
    Gives (orNull (items Entry.read) []) value (some listing.entries) := by
  refine gives_of_holds isValue (looked ▸ fits.entries) (fun _ => entries_give) ?_
  rintro text ⟨texts, isArray, -⟩
  exact ne_nullText_of_isArray isArray

theorem Listing.Fits.filled_eq (fits : listing.Fits pairs) :
    filled Listing.members [] {} (pairs.map fun pair => (pair.1, listing.put? pair.1)) =
      some listing := by
  have whole : ∀ draft, (∀ member ∈ Listing.members, listing.Agrees member.name draft) →
      draft = listing := by
    intro draft agrees
    have code := (agrees _ List.mem_cons_self).1 rfl
    have entries := (agrees _ (List.mem_cons_of_mem _ List.mem_cons_self)).2 rfl
    cases draft
    cases listing
    rw [Listing.mk.injEq]
    exact ⟨code, entries⟩
  obtain ⟨-, -, codeText, codeGiven, -⟩ := fits.code
  have codeThere : "code" ∈ pairs.map Prod.fst :=
    List.mem_map.mpr ⟨_, mem_of_lookup codeGiven, rfl⟩
  refine filled_eq_some whole ?_ (fun _ never => absurd never List.not_mem_nil) ?_ ?_ ?_
  · rw [map_fst_given]
    exact Listing.count_le fits.once
  · intro pair inPairs known
    obtain ⟨given, -, rfl⟩ := List.mem_map.mp inPairs
    exact listing.agrees_put known
  · rw [map_fst_given]
    intro member _ absent
    refine ⟨fun same => ?_, fun same => ?_⟩
    · exact absurd (same ▸ codeThere) absent
    · exact (fits.entries.of_notMem (same ▸ absent)).symm
  · intro member inMembers isRequired
    rw [map_fst_given]
    simp only [Listing.members, List.mem_cons, List.not_mem_nil, or_false] at inMembers
    rcases inMembers with rfl | rfl
    · exact Or.inl codeThere
    · cases isRequired

/-- A known member of an object that fits puts the member of the listing, if its code is given. -/
theorem Listing.Fits.gives (fits : listing.Fits pairs) {codeText : Bytes}
    (codeGiven : pairs.lookup "code" = some codeText) {code? : Option Int}
    (codeGives : Gives readCode codeText code?) {pair : String × Bytes} (inPairs : pair ∈ pairs)
    (isValue : IsValue pair.2) {member : Member Listing}
    (found : member? Listing.members pair.1 = some member) :
    Gives member.read pair.2 (if pair.1 = "code" then
      code?.map fun code draft => { draft with code := code } else listing.put? pair.1) := by
  obtain ⟨name, value⟩ := pair
  obtain ⟨inMembers, rfl⟩ := of_member? found
  have looked := lookup_of_mem inPairs (Listing.count_le fits.once member inMembers)
  simp only [Listing.members, List.mem_cons, List.not_mem_nil, or_false] at inMembers
  rcases inMembers with rfl | rfl
  · obtain rfl := Option.some.inj (codeGiven.symm.trans looked)
    exact ofReader_gives codeGives _ _ _
  · exact ofReader_gives (fits.gives_entries isValue looked) _ _ _

end

/-- A body that is an object, blanks apart, is what its reader makes of the object. -/
theorem decode?_of_gives {α : Type} {read : Reader α} {before text after : Bytes} {outcome : Option α}
    (blanksBefore : IsBlanks before) (blanksAfter : IsBlanks after)
    (gives : Gives read text outcome) : decode? read (before ++ (text ++ after)) = outcome := by
  have stops : Stops after := by
    have here := blanksAfter.stops_append stops_nil
    rwa [List.append_nil] at here
  have nothingLeft : skipBlanks after = [] := by
    have here := blanksAfter.skipBlanks_append []
    rwa [List.append_nil] at here
  have here := gives before after blanksBefore stops
  cases outcome with
  | some value =>
    have reads : read (before ++ (text ++ after)) = .ok (value, after) := here
    simp [decode?, whole, reads, nothingLeft, bind, Except.bind, pure, Except.pure]
  | none =>
    obtain ⟨fault, refused⟩ := here
    rw [decode?, whole, refused]
    rfl

end MediaTrail
