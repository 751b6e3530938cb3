/-
**Where the address of a client comes from.** There are four sources, tried in a fixed order, the last
of which always has something to offer. A source that has nothing to offer gives way to the next one:
a field that is missing or unreadable, and a field that is blank where it is looked at. Only the first
field of a name is ever looked at, and of a chain of proxies only what stands in front of its first
comma. What follows there does not step in if that is blank.

* `Offers`: what a source offers, told without saying how it is found;
* `AddressSource.offer?_eq_some_iff`: a source is asked for just this;
* `clientAddress_eq_iff`: the address is what the first source offers that has something to offer;
* `Offers.isBare`: nothing that is offered is empty or has blanks at its ends;
* `clientAddress_by_source`: both together, and which fields play no part.
-/

import MediaTrail.Proofs.TextParts
import MediaTrail.Visitor

namespace MediaTrail

open Text

/-! ### Fields -/

/-- The first field of a name has this value. -/
def Headers.FirstIs (headers : Headers) (name : String) (value : Bytes) : Prop :=
  ∃ before after, headers = before ++ ⟨name, value⟩ :: after ∧ ∀ field ∈ before, field.name ≠ name

theorem Headers.first?_eq_some_iff {headers : Headers} {name : String} {value : Bytes} :
    headers.first? name = some value ↔ headers.FirstIs name value := by
  rw [first?, Option.map_eq_some_iff]
  constructor
  · rintro ⟨field, found, rfl⟩
    obtain ⟨sameName, before, after, rfl, others⟩ := List.find?_eq_some_iff_append.mp found
    obtain rfl := beq_iff_eq.mp sameName
    exact ⟨before, after, rfl, fun other member => by simpa using others other member⟩
  · rintro ⟨before, after, rfl, others⟩
    refine ⟨⟨name, value⟩, List.find?_eq_some_iff_append.mpr ?_, rfl⟩
    exact ⟨beq_self_eq_true name, before, after, rfl, fun other member => by
      simpa using others other member⟩

/-- The bytes of a readable text: tabs, and the characters from the space to the tilde. -/
structure IsFieldText (value : Bytes) (text : List Char) : Prop where
  bytes : value = text.map Char.toUInt8
  readable : ∀ char ∈ text, char = '\t' ∨ (' ' ≤ char ∧ char ≤ '~')

theorem isReadableByte_iff (byte : UInt8) : isReadableByte byte = true ↔
    Char.ofUInt8 byte = '\t' ∨ (' ' ≤ Char.ofUInt8 byte ∧ Char.ofUInt8 byte ≤ '~') := by
  have tab : byte = 0x09 ↔ Char.ofUInt8 byte = '\t' := by
    rw [← UInt8.toNat_inj, ← Char.toNat_inj]
    rfl
  rw [isReadableByte, Bool.or_eq_true, Bool.and_eq_true, beq_iff_eq, decide_eq_true_eq,
    decide_eq_true_eq, tab]
  rfl

theorem toUInt8_ofUInt8 (byte : UInt8) : (Char.ofUInt8 byte).toUInt8 = byte :=
  UInt8.toNat_inj.mp <| (UInt32.toNat_toUInt8 _).trans (Nat.mod_eq_of_lt byte.toNat_lt)

theorem ofUInt8_toUInt8 {char : Char} (small : char.toNat < 256) :
    Char.ofUInt8 char.toUInt8 = char :=
  Char.toNat_inj.mp <| (UInt32.toNat_toUInt8 _).trans (Nat.mod_eq_of_lt small)

theorem readable?_eq_some_iff {value : Bytes} {text : List Char} :
    readable? value = some text ↔ IsFieldText value text := by
  constructor
  · intro reads
    rw [readable?] at reads
    split at reads
    · rename_i readable
      obtain rfl := Option.some.inj reads
      refine ⟨by simp [Function.comp_def, toUInt8_ofUInt8],
        List.forall_mem_map.mpr fun byte member => ?_⟩
      exact (isReadableByte_iff byte).mp (List.all_eq_true.mp readable byte member)
    · cases reads
  · rintro ⟨rfl, readable⟩
    have same : ∀ char ∈ text, Char.ofUInt8 char.toUInt8 = char := by
      intro char member
      rcases readable char member with rfl | ⟨-, atMost⟩
      · decide
      · exact ofUInt8_toUInt8 (Nat.lt_of_le_of_lt (UInt32.le_iff_toNat_le.mp atMost) (by decide))
    have all : (text.map Char.toUInt8).all isReadableByte = true := by
      rw [List.all_map, List.all_eq_true]
      intro char member
      rw [Function.comp_apply, isReadableByte_iff, same char member]
      exact readable char member
    rw [readable?, if_pos all, List.map_map]
    exact congrArg some ((List.map_congr_left same).trans (List.map_id text))

theorem Headers.text?_eq_some_iff {headers : Headers} {name : String} {text : List Char} :
    headers.text? name = some text ↔
      ∃ value, headers.FirstIs name value ∧ IsFieldText value text := by
  simp only [text?, Option.bind_eq_some_iff, first?_eq_some_iff, readable?_eq_some_iff]

theorem nonBlank?_eq_some_iff {text : List Char} {kept : String} :
    nonBlank? text = some kept ↔ IsCore text kept.toList ∧ kept ≠ "" := by
  constructor
  · intro keeps
    rw [nonBlank?] at keeps
    split at keeps
    · cases keeps
    · rename_i char rest trimmed
      obtain rfl := Option.some.inj keeps
      refine ⟨trim_eq_iff.mp (trimmed.trans String.toList_ofList.symm), fun isEmpty => ?_⟩
      exact List.cons_ne_nil char rest (String.ofList_eq_empty_iff.mp isEmpty)
  · rintro ⟨isCore, something⟩
    rw [nonBlank?, trim_eq_iff.mpr isCore]
    cases parts : kept.toList with
    | nil => exact absurd (String.toList_eq_nil_iff.mp parts) something
    | cons char rest =>
      show some (String.ofList (char :: rest)) = some kept
      rw [← parts, String.ofList_toList]

/-! ### Sources -/

/-- A source of addresses. -/
inductive AddressSource where
  /-- The field in which proxies list the addresses that a request came by. -/
  | forwarded
  /-- The field in which a proxy names the address that a request came from. -/
  | real
  /-- The other end of the connection. -/
  | remote
  /-- The word for no address. -/
  | unknown
deriving DecidableEq

/-- The sources in the order in which they are tried. -/
def AddressSource.inOrder : List AddressSource := [forwarded, real, remote, unknown]

/-- What a source offers. -/
inductive Offers (headers : Headers) (peer : Peer) : AddressSource → String → Prop
  | forwarded {value : Bytes} {text entry : List Char} {address : String}
      (first : headers.FirstIs "x-forwarded-for" value) (reads : IsFieldText value text)
      (isEntry : IsUpTo ',' text entry) (isCore : IsCore entry address.toList)
      (something : address ≠ "") : Offers headers peer .forwarded address
  | real {value : Bytes} {text : List Char} {address : String}
      (first : headers.FirstIs "x-real-ip" value) (reads : IsFieldText value text)
      (isCore : IsCore text address.toList) (something : address ≠ "") :
      Offers headers peer .real address
  | remote {address : Address} (known : peer.remote = some address) :
      Offers headers peer .remote address.text
  | unknown : Offers headers peer .unknown "unknown"

/-- What is found when a source is asked. -/
def AddressSource.offer? (headers : Headers) (peer : Peer) : AddressSource → Option String
  | forwarded => forwardedAddress? headers
  | real => realAddress? headers
  | remote => peer.remote.map Address.text
  | unknown => some unknownAddress

variable {headers : Headers} {peer : Peer}

theorem AddressSource.offer?_eq_some_iff {source : AddressSource} {address : String} :
    source.offer? headers peer = some address ↔ Offers headers peer source address := by
  cases source with
  | forwarded =>
    rw [offer?, forwardedAddress?, Option.bind_eq_some_iff]
    constructor
    · rintro ⟨text, found, keeps⟩
      obtain ⟨value, first, reads⟩ := Headers.text?_eq_some_iff.mp found
      obtain ⟨isCore, something⟩ := nonBlank?_eq_some_iff.mp keeps
      exact .forwarded first reads (takeWhile_eq_iff.mp rfl) isCore something
    · intro offers
      cases offers with
      | forwarded first reads isEntry isCore something =>
        refine ⟨_, Headers.text?_eq_some_iff.mpr ⟨_, first, reads⟩, ?_⟩
        rw [takeWhile_eq_iff.mpr isEntry]
        exact nonBlank?_eq_some_iff.mpr ⟨isCore, something⟩
  | real =>
    rw [offer?, realAddress?, Option.bind_eq_some_iff]
    constructor
    · rintro ⟨text, found, keeps⟩
      obtain ⟨value, first, reads⟩ := Headers.text?_eq_some_iff.mp found
      obtain ⟨isCore, something⟩ := nonBlank?_eq_some_iff.mp keeps
      exact .real first reads isCore something
    · intro offers
      cases offers with
      | real first reads isCore something =>
        exact ⟨_, Headers.text?_eq_some_iff.mpr ⟨_, first, reads⟩,
          nonBlank?_eq_some_iff.mpr ⟨isCore, something⟩⟩
  | remote =>
    rw [offer?, Option.map_eq_some_iff]
    constructor
    · rintro ⟨other, known, rfl⟩
      exact .remote known
    · intro offers
      cases offers with
      | remote known => exact ⟨_, known, rfl⟩
  | unknown =>
    constructor
    · intro same
      obtain rfl := Option.some.inj same
      exact .unknown
    · intro offers
      cases offers with
      | unknown => rfl

theorem clientAddress_eq_findSome? :
    AddressSource.inOrder.findSome? (AddressSource.offer? headers peer) =
      some (clientAddress headers peer) := by
  simp only [AddressSource.inOrder, List.findSome?_cons, AddressSource.offer?, clientAddress]
  cases forwardedAddress? headers <;> cases realAddress? headers <;> cases peer.remote <;> rfl

/-- **The address is what the first source offers that has something to offer.** -/
theorem clientAddress_eq_iff {address : String} :
    clientAddress headers peer = address ↔
      ∃ before source after, AddressSource.inOrder = before ++ source :: after ∧
        Offers headers peer source address ∧
        ∀ earlier ∈ before, ∀ other, ¬Offers headers peer earlier other := by
  have found : clientAddress headers peer = address ↔
      AddressSource.inOrder.findSome? (AddressSource.offer? headers peer) = some address := by
    rw [clientAddress_eq_findSome?, Option.some_inj]
  simp only [found, List.findSome?_eq_some_iff, AddressSource.offer?_eq_some_iff,
    Option.eq_none_iff_forall_ne_some, ne_eq]

/-! ### What is offered -/

namespace Address

theorem separated_ne_nil {mark : Char} {first : List Char} (something : first ≠ [])
    (rest : List (List Char)) : separated mark (first :: rest) ≠ [] := by
  cases rest with
  | nil => exact something
  | cons second rest => exact List.append_ne_nil_of_left_ne_nil something _

theorem octets_ne_nil (part : UInt8) (parts : List UInt8) : octets (part :: parts) ≠ [] :=
  separated_ne_nil Nat.toDigits_ne_nil _

theorem groups_ne_nil (part : UInt16) (parts : List UInt16) : groups (part :: parts) ≠ [] :=
  separated_ne_nil Nat.toDigits_ne_nil _

theorem compressed_ne_nil (part : UInt16) (parts : List UInt16) :
    compressed (part :: parts) ≠ [] := by
  simp only [compressed]
  split
  · exact List.append_ne_nil_of_right_ne_nil _ (List.cons_ne_nil _ _)
  · exact groups_ne_nil part parts

theorem chars_ne_nil (address : Address) : address.chars ≠ [] := by
  cases address with
  | v4 a b c d => exact octets_ne_nil a _
  | v6 a b c d e f g h =>
    simp only [chars]
    split
    · exact List.append_ne_nil_of_left_ne_nil (by decide) _
    · exact compressed_ne_nil a _

end Address

theorem isBare_of_fits {text : List Char} (fits : ∀ char ∈ text, isColumnChar char = true) :
    IsBare text := by
  have visible : ∀ char ∈ text, isBlank char = false := by
    intro char member
    have inColumn := fits char member
    rw [isColumnChar, Bool.and_eq_true, Bool.not_eq_true'] at inColumn
    exact inColumn.1
  exact ⟨fun char first => visible char (List.mem_of_head? first),
    fun char last => visible char (List.mem_of_getLast? last)⟩

/-- Nothing that is offered is empty or has blanks at its ends. -/
theorem Offers.isBare {source : AddressSource} {address : String}
    (offers : Offers headers peer source address) : address ≠ "" ∧ IsBare address.toList := by
  cases offers with
  | forwarded _ _ _ isCore something => exact ⟨something, isCore.isBare⟩
  | real _ _ isCore something => exact ⟨something, isCore.isBare⟩
  | @remote address known =>
    refine ⟨fun isEmpty => address.chars_ne_nil (String.ofList_eq_empty_iff.mp isEmpty), ?_⟩
    rw [Address.text, String.toList_ofList]
    exact isBare_of_fits (isColumnChar_address address)
  | unknown => exact ⟨by decide, isBare_of_fits (List.all_eq_true.mp (by decide))⟩

/-! ### What plays no part -/

/-- A field with another name, or one behind the first of its name, is not found. -/
theorem Headers.first?_insert {before after : Headers} {field : Field} {name : String}
    (passed : field.name = name → ∃ earlier ∈ before, earlier.name = name) :
    first? (before ++ field :: after) name = first? (before ++ after) name := by
  rw [first?, first?, List.find?_append, List.find?_append]
  cases found : before.find? (fun field => field.name == name) with
  | some earlier => rfl
  | none =>
    have other : field.name ≠ name := by
      intro same
      obtain ⟨earlier, member, sameName⟩ := passed same
      exact List.find?_eq_none.mp found earlier member (beq_iff_eq.mpr sameName)
    have skipped : (field :: after).find? (fun field => field.name == name) =
        after.find? fun field => field.name == name :=
      List.find?_cons_of_neg (by simpa using other)
    rw [skipped]

/-- A field that is not looked at for an address: it has another name than the two, or comes behind a
field of its own name. -/
def IsPassedOver (before : Headers) (field : Field) : Prop :=
  (field.name ≠ "x-forwarded-for" ∧ field.name ≠ "x-real-ip") ∨
    ∃ earlier ∈ before, earlier.name = field.name

theorem clientAddress_insert {before after : Headers} {field : Field}
    (passedOver : IsPassedOver before field) :
    clientAddress (before ++ field :: after) peer = clientAddress (before ++ after) peer := by
  have passed (name : String) (looked : name = "x-forwarded-for" ∨ name = "x-real-ip") :
      Headers.first? (before ++ field :: after) name = Headers.first? (before ++ after) name := by
    refine Headers.first?_insert fun same => ?_
    subst same
    rcases passedOver with ⟨notForwarded, notReal⟩ | behind
    · exact (looked.elim notForwarded notReal).elim
    · exact behind
  simp only [clientAddress, forwardedAddress?, realAddress?, Headers.text?,
    passed _ (.inl rfl), passed _ (.inr rfl)]

/-- **The address of a client comes from the first source that has one.** It is never empty, and has no
blanks at its ends. It is what a source offers where none that is tried before has anything to offer.
A field with another name, and a field behind the first one of its name, can be added or left out. -/
theorem clientAddress_by_source (headers : Headers) (peer : Peer) :
    clientAddress headers peer ≠ "" ∧ IsBare (clientAddress headers peer).toList ∧
    (∀ address, clientAddress headers peer = address ↔
      ∃ before source after, AddressSource.inOrder = before ++ source :: after ∧
        Offers headers peer source address ∧
        ∀ earlier ∈ before, ∀ other, ¬Offers headers peer earlier other) ∧
    ∀ before field after, headers = before ++ field :: after → IsPassedOver before field →
      clientAddress (before ++ after) peer = clientAddress headers peer := by
  have own : clientAddress headers peer = clientAddress headers peer := rfl
  obtain ⟨_, source, _, _, offers, _⟩ := clientAddress_eq_iff.mp own
  refine ⟨offers.isBare.1, offers.isBare.2, fun _ => clientAddress_eq_iff, ?_⟩
  rintro before field after rfl passedOver
  exact (clientAddress_insert passedOver).symm

/-- A list of proxies whose first entry is blank, and a field that cannot be read: neither of them hides
the other end of the connection. -/
example : clientAddress [.named "X-Forwarded-For" (" , 10.0.0.1".toList.map Char.toUInt8),
    .named "X-Real-IP" [0x31, 0xFF], .named "x-real-ip" [0x32]]
      { remote := some (.v6 0 0 0 0 0 0xFFFF 0xC0A8 0x0109) } = "::ffff:192.168.1.9" := by
  decide

end MediaTrail
