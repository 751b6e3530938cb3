/-
**The media file of a description.** A file server says the same of an object whether it is asked for
the object or for a directory that holds nothing else. The two answers are told apart by their readers:
null in place of the object is an object without members in the one, and no entry in the other, and the
conditions on a media file are checked in two places. For all that, both answers yield the same file.

* `entry_settles`: what is made of an entry depends on its value alone;
* `description_gives`, `listing_gives_one`: the two answers, from what is made of their entry;
* `getHits_iff_listHits`: a description and a listing of one entry are judged alike, whatever value
  stands for the entry.
-/

import MediaTrail.Proofs.ListedFiles

namespace MediaTrail

open Json
open Text (Bytes)

/-! ### The answers and their entry -/

/-- **What is made of a value in place of an entry** depends on the value alone. -/
theorem entry_settles : Settles Entry.read :=
  record_settles Entry.members_settle {}

/-- Null is no entry. -/
theorem entry_refuses_null : Gives Entry.read nullText none :=
  record_refuses_other Entry.members {} (by decide) (by decide) (by decide)

section

variable {code entry text : Bytes} {code? : Option Int} {outcome? : Option Entry}

/-- A description, from what is made of its entry, for which null stands as for none. -/
theorem description_gives (isObject : IsObject [("code", code), ("data", entry)] text)
    (codeGives : Gives readCode code code?) (entryGives : Gives (orNull Entry.read {}) entry outcome?) :
    Gives Description.read text
      (code?.bind fun code => outcome?.map fun entry => (⟨code, entry⟩ : Description)) := by
  have result := twoMembers_gives (by decide) (fun code answer => { answer with code := code })
    (fun entry answer => { answer with entry := entry }) isObject codeGives entryGives
    ({} : Description)
  exact result

/-- A listing of one entry, from what is made of the entry. -/
theorem listing_gives_one {entries : Bytes} (isArray : IsArray [entry] entries)
    (isObject : IsObject [("code", code), ("content", entries)] text)
    (codeGives : Gives readCode code code?) (entryGives : Gives Entry.read entry outcome?) :
    Gives Listing.read text
      (code?.bind fun code => outcome?.map fun entry => (⟨code, [entry]⟩ : Listing)) := by
  have itemsGive : Gives (items Entry.read) entries (outcome?.map fun entry => [entry]) := by
    have result := items_gives isArray (.cons entryGives .nil)
    cases outcome? <;> exact result
  have entriesGive := orNull_gives (isValue_of_isArray isArray) (ne_nullText_of_isArray isArray)
    itemsGive []
  have result := twoMembers_gives (by decide) (fun code listing => { listing with code := code })
    (fun entries listing => { listing with entries := entries }) isObject codeGives entriesGive
    ({} : Listing)
  cases outcome? <;> exact result

end

/-! ### Their files -/

/-- A body that is a value without blanks around it is what its reader makes of the value. -/
theorem decode?_eq_of_gives {α : Type} {read : Reader α} {text : Bytes} {outcome : Option α}
    (gives : Gives read text outcome) : decode? read text = outcome := by
  have result := decode?_of_gives isBlanks_nil isBlanks_nil gives
  rwa [List.nil_append, List.append_nil] at result

/-- Two answers yield nothing, or one file each, of the same name and path. -/
inductive Alike : List Hit → List Hit → Prop
  | nothing : Alike [] []
  | one (name path shown other : String) : Alike [⟨name, path, shown⟩] [⟨name, path, other⟩]

/-- Both answers ask the same of their code and of their entry. -/
theorem hits_alike (inspector : Inspector) (code : Int) (entry : Entry) :
    Alike ((⟨code, entry⟩ : Description).hits inspector.extensions)
      ((⟨code, [entry]⟩ : Listing).hits inspector.extensions inspector.pathStyle) := by
  rw [Description.hits, Listing.hits]
  by_cases succeeded : code = successCode
  · rw [if_pos succeeded, List.filter_singleton]
    cases isMedia : entry.isMedia inspector.extensions with
    | true =>
      rw [if_pos ⟨succeeded, rfl⟩]
      exact .one _ _ _ _
    | false =>
      rw [if_neg fun both => Bool.false_ne_true both.2]
      exact .nothing
  · rw [if_neg succeeded, if_neg fun both => succeeded both.1]
    exact .nothing

/-- An object without members, as which null is read, is no media file. -/
theorem hits_default (extensions : Extensions) (code : Int) :
    (⟨code, {}⟩ : Description).hits extensions = [] :=
  if_neg fun both => Bool.false_ne_true both.2

section

variable {code entry entries description listing : Bytes} {code? : Option Int}

/-- The files of both answers, from what is made of their code. A null is read by the one and refused by
the other, and yields no file either way. -/
theorem alike_of_gives (inspector : Inspector) (codeGives : Gives readCode code code?)
    (isDescription : IsObject [("code", code), ("data", entry)] description)
    (isArray : IsArray [entry] entries)
    (isListing : IsObject [("code", code), ("content", entries)] listing) :
    Alike (inspector.getHits description) (inspector.listHits listing) := by
  have isValue : IsValue entry := isArray.1 entry (List.mem_singleton_self entry)
  rw [Inspector.getHits, Inspector.listHits]
  by_cases isNull : entry = nullText
  · subst isNull
    rw [decode?_eq_of_gives (description_gives isDescription codeGives (orNull_null Entry.read {})),
      decode?_eq_of_gives (listing_gives_one isArray isListing codeGives entry_refuses_null)]
    cases code? with
    | none => exact .nothing
    | some code =>
      show Alike ((⟨code, {}⟩ : Description).hits inspector.extensions) []
      rw [hits_default]
      exact .nothing
  · obtain ⟨outcome?, entryGives⟩ := entry_settles entry isValue
    rw [decode?_eq_of_gives (description_gives isDescription codeGives
        (orNull_gives isValue isNull entryGives {})),
      decode?_eq_of_gives (listing_gives_one isArray isListing codeGives entryGives)]
    cases code? with
    | none => exact .nothing
    | some code =>
      cases outcome? with
      | none => exact .nothing
      | some entry => exact hits_alike inspector code entry

end

/-- **A described entry and the same entry listed alone are judged alike,** whatever value stands for
the entry and whatever integer is the code: the description yields a file if and only if the listing
does, and then each yields one, of the same name and path. -/
theorem getHits_iff_listHits (inspector : Inspector) {value : Int}
    {code entry entries description listing : Bytes} (isCode : IsInteger value code)
    (isDescription : IsObject [("code", code), ("data", entry)] description)
    (isArray : IsArray [entry] entries)
    (isListing : IsObject [("code", code), ("content", entries)] listing) :
    (inspector.getHits description = [] ↔ inspector.listHits listing = []) ∧
      (inspector.getHits description ≠ [] → ∃ described listed,
        inspector.getHits description = [described] ∧ inspector.listHits listing = [listed] ∧
          described.name = listed.name ∧ described.path = listed.path) := by
  obtain ⟨code?, codeGives⟩ := integer_settled isCode (-9223372036854775808) 9223372036854775807
  have alike := alike_of_gives inspector codeGives isDescription isArray isListing
  generalize inspector.getHits description = fromDescription at alike ⊢
  generalize inspector.listHits listing = fromListing at alike ⊢
  cases alike with
  | nothing => exact ⟨Iff.rfl, fun given => absurd rfl given⟩
  | one name path shown other =>
    exact ⟨⟨nofun, nofun⟩, fun _ => ⟨_, _, rfl, rfl, rfl, rfl⟩⟩

/-- An entry that is given as an array of its members, the last of which are missing. -/
theorem getHits_listHits_of_arrayEntry :
    let inspector : Inspector := ⟨.ofList ["mp4"], .joined⟩
    let code : Bytes := [0x32, 0x30, 0x30]
    let entry := writeArray [Quotation.write "a.mp4"]
    ∃ described listed,
      inspector.getHits (writeObject [("code", code), ("data", entry)]) = [described] ∧
      inspector.listHits (writeObject [("code", code), ("content", writeArray [entry])]) = [listed] ∧
        described.name = listed.name ∧ described.path = listed.path := by
  intro inspector code entry
  have isCode : IsWhole code := .other (by decide) (by decide)
  have isEntry : IsValue entry :=
    isValue_of_isArray (isArray_writeArray_one (isValue_of_isText (isText_write "a.mp4")))
  have isArray := isArray_writeArray_one isEntry
  have isObject : ∀ name value, IsValue value →
      IsObject [("code", code), (name, value)] (writeObject [("code", code), (name, value)]) := by
    intro name value isValue
    refine isObject_writeObject fun member inMembers => ?_
    simp only [List.mem_cons, List.not_mem_nil, or_false] at inMembers
    rcases inMembers with rfl | rfl
    · exact isValue_of_isWhole isCode
    · exact isValue
  have alike := getHits_iff_listHits inspector ⟨code, isCode, Or.inl ⟨rfl, rfl⟩⟩
    (isObject "data" entry isEntry) isArray (isObject "content" _ (isValue_of_isArray isArray))
  exact alike.2 (by decide)

end MediaTrail
