/-
**Settings written and read back.** A host may write down any of its choices, in any order, and read
them again: the choices that were written come back as they were, and the others have their usual
values. Only the rules can stand in the way then, never the form of what was written.

* `ReadsBack`: bytes that are the text of a value and are read as that value;
* `writeTexts_readsBack`, `writeDecimal_readsBack`, `writeChoice_readsBack`: written values are such;
* `filled_of_known`: a record of members that are known and given once;
* `Settings.onto`: some choices of settings, put into a draft;
* `ofJson_of_chosen`: what is read of some written choices, and of all of them.
-/

import Mathlib.Data.List.Perm.Subperm
import MediaTrail.Proofs.ColumnTexts
import MediaTrail.Proofs.Encoding
import MediaTrail.Proofs.JsonRecords
import MediaTrail.Proofs.JsonWriting
import MediaTrail.Settings.Printer

namespace MediaTrail

open Text (Bytes)
open Text.Utf8

namespace Json

/-! ### Numbers -/

theorem toNat_toUInt8 {char : Char} (digit : char.isDigit = true) :
    char.toUInt8.toNat = char.toNat := by
  have small := Nat.lt_of_le_of_lt (toNat_of_isDigit digit).2 (by decide : 0x39 < 2 ^ 8)
  exact (UInt32.toNat_toUInt8 char.val).trans (Nat.mod_eq_of_lt small)

theorem isDigits_writeDecimal (value : Nat) : IsDigits (writeDecimal value) := by
  refine ⟨fun empty => Nat.toDigits_ne_nil (List.map_eq_nil_iff.mp empty), fun byte member => ?_⟩
  obtain ⟨char, inDigits, rfl⟩ := List.mem_map.mp member
  have digit := Nat.isDigit_of_mem_toDigits (by decide) (by decide) inDigits
  rw [UInt8.le_iff_toNat_le, UInt8.le_iff_toNat_le, toNat_toUInt8 digit]
  exact toNat_of_isDigit digit

/-- A number other than zero does not start with a zero. -/
theorem writeDecimal_of_pos {value : Nat} (positive : 0 < value) :
    ∃ first more, writeDecimal value = first :: more ∧ first ≠ 0x30 := by
  induction value using Nat.strongRecOn with
  | ind value ih =>
    rw [writeDecimal, Nat.toDigits_eq_if (by decide)]
    by_cases short : value < 10
    · rw [if_pos short]
      refine ⟨_, [], rfl, ?_⟩
      have all : ∀ digit : Fin 10, 0 < digit.val → digit.val.digitChar.toUInt8 ≠ 0x30 := by decide
      exact all ⟨value, short⟩ positive
    · obtain ⟨first, more, parts, nonzero⟩ := ih (value / 10) (by omega) (by omega)
      rw [if_neg short, List.map_append]
      rw [writeDecimal] at parts
      rw [parts]
      exact ⟨first, _, rfl, nonzero⟩

theorem isWhole_writeDecimal (value : Nat) : IsWhole (writeDecimal value) := by
  rcases Nat.eq_zero_or_pos value with rfl | positive
  · exact .zero
  · obtain ⟨first, more, parts, nonzero⟩ := writeDecimal_of_pos positive
    have digits := isDigits_writeDecimal value
    rw [parts] at digits ⊢
    exact .other nonzero digits

theorem foldl_digits {digits : List Char} (isDigits : ∀ char ∈ digits, char.isDigit = true)
    (start : Nat) :
    (digits.map Char.toUInt8).foldl (fun value digit => value * 10 + (digit.toNat - 0x30)) start =
      Nat.ofDigitChars 10 digits start := by
  induction digits generalizing start with
  | nil => rfl
  | cons char digits ih =>
    obtain ⟨digit, later⟩ := List.forall_mem_cons.mp isDigits
    rw [List.map_cons, List.foldl_cons, toNat_toUInt8 digit, Nat.mul_comm, ih later]
    rfl

theorem digitsValue_writeDecimal (value : Nat) : digitsValue (writeDecimal value) = value := by
  rw [digitsValue, writeDecimal, foldl_digits fun char member =>
    Nat.isDigit_of_mem_toDigits (by decide) (by decide) member]
  exact Nat.ofDigitChars_ten_toDigits

/-! ### What is written is text -/

/-- The bytes of some text. -/
def IsUtf8 (bytes : Bytes) : Prop := ∃ text, encode text = bytes

theorem isUtf8_nil : IsUtf8 [] := ⟨"", rfl⟩

theorem IsUtf8.append {left right : Bytes} (isLeft : IsUtf8 left) (isRight : IsUtf8 right) :
    IsUtf8 (left ++ right) := by
  obtain ⟨first, rfl⟩ := isLeft
  obtain ⟨second, rfl⟩ := isRight
  exact ⟨first ++ second, encode_append first second⟩

theorem isUtf8_encodeChar (char : Char) : IsUtf8 (String.utf8EncodeChar char) :=
  ⟨String.ofList [char], by simp [encode]⟩

theorem isUtf8_single {byte : UInt8} (short : byte < 0x80) : IsUtf8 [byte] := by
  have all : ∀ code : Fin 0x80,
      String.utf8EncodeChar (Char.ofNat code.val) = [UInt8.ofNat code.val] := by decide
  have isChar := isUtf8_encodeChar (Char.ofNat byte.toNat)
  rw [all ⟨byte.toNat, UInt8.lt_iff_toNat_lt.mp short⟩, UInt8.ofNat_toNat] at isChar
  exact isChar

theorem IsUtf8.cons {byte : UInt8} {rest : Bytes} (short : byte < 0x80) (isRest : IsUtf8 rest) :
    IsUtf8 (byte :: rest) :=
  (isUtf8_single short).append isRest

/-- Bytes all of which are short are text. -/
theorem isUtf8_of_short {bytes : Bytes} (short : ∀ byte ∈ bytes, byte < 0x80) : IsUtf8 bytes := by
  induction bytes with
  | nil => exact isUtf8_nil
  | cons byte rest ih =>
    obtain ⟨here, later⟩ := List.forall_mem_cons.mp short
    exact (ih later).cons here

theorem isUtf8_writeChar (char : Char) : IsUtf8 (Quotation.writeChar char) := by
  unfold Quotation.writeChar
  split
  iterate 7 exact isUtf8_of_short (by decide +kernel)
  by_cases control : char.toNat < 0x20
  · have digits : ∀ digit : Fin 0x10, Quotation.hexDigit digit.val < 0x80 := by decide
    rw [if_pos control]
    refine (isUtf8_of_short (by decide +kernel)).append (isUtf8_of_short ?_)
    simp only [List.mem_cons, List.not_mem_nil, or_false]
    rintro byte (rfl | rfl)
    · exact digits ⟨char.toNat / 16, by omega⟩
    · exact digits ⟨char.toNat % 16, by omega⟩
  · rw [if_neg control]
    exact isUtf8_encodeChar char

theorem isUtf8_write (text : String) : IsUtf8 (Quotation.write text) := by
  have body : ∀ chars : List Char, IsUtf8 (chars.flatMap Quotation.writeChar) := by
    intro chars
    induction chars with
    | nil => exact isUtf8_nil
    | cons char chars ih => exact (isUtf8_writeChar char).append ih
  exact ((body text.toList).append (isUtf8_single (by decide))).cons (by decide)

theorem isUtf8_commaSeparated {items : List Bytes} (each : ∀ item ∈ items, IsUtf8 item) :
    IsUtf8 (commaSeparated items) := by
  induction items with
  | nil => exact isUtf8_nil
  | cons item items ih =>
    obtain ⟨here, later⟩ := List.forall_mem_cons.mp each
    cases items with
    | nil => exact here
    | cons next items => exact here.append ((ih later).cons (by decide))

theorem isUtf8_writeArray {items : List Bytes} (each : ∀ item ∈ items, IsUtf8 item) :
    IsUtf8 (writeArray items) :=
  ((isUtf8_commaSeparated each).append (isUtf8_single (by decide))).cons (by decide)

theorem isUtf8_writeObject {members : List (String × Bytes)}
    (each : ∀ member ∈ members, IsUtf8 member.2) : IsUtf8 (writeObject members) := by
  refine ((isUtf8_commaSeparated fun item inItems => ?_).append
    (isUtf8_single (by decide))).cons (by decide)
  obtain ⟨member, inMembers, rfl⟩ := List.mem_map.mp inItems
  exact (isUtf8_write member.1).append ((each member inMembers).cons (by decide))

/-! ### Values read back -/

/-- Some bytes are the text of a value, and are read as this one. -/
structure ReadsBack {α : Type} (read : Reader α) (bytes : Bytes) (value : α) : Prop where
  isUtf8 : IsUtf8 bytes
  isValue : IsValue bytes
  gives : Gives read bytes (some value)

theorem write_readsBack (given : String) : ReadsBack text (Quotation.write given) given :=
  ⟨isUtf8_write given, isValue_of_isText (isText_write given), text_gives (isText_write given)⟩

theorem writeTexts_readsBack (texts : List String) :
    ReadsBack (items text) (Settings.writeTexts texts) texts := by
  have isArray : IsArray (texts.map Quotation.write) (Settings.writeTexts texts) :=
    isArray_writeArray (List.forall_mem_map.mpr fun given _ => (write_readsBack given).isValue)
  have each : List.Forall₂ (Gives text) (texts.map Quotation.write) (texts.map some) :=
    List.forall₂_map_left_iff.mpr (List.forall₂_map_right_iff.mpr
      (List.forall₂_same.mpr fun given _ => (write_readsBack given).gives))
  have gives := items_gives isArray each
  rw [mapM_some] at gives
  exact ⟨isUtf8_writeArray (List.forall_mem_map.mpr fun given _ => isUtf8_write given),
    isValue_of_isArray isArray, gives⟩

theorem writeBool_readsBack (value : Bool) : ReadsBack boolean (writeBool value) value := by
  have same : writeBool value = truthText value := by cases value <;> rfl
  refine ⟨isUtf8_of_short ?_, same ▸ .truth value, same ▸ boolean_gives value⟩
  cases value <;> decide +kernel

/-- A written number of 64 bits is read as that number. -/
theorem writeDecimal_readsBack {value : Nat} (fits : value < UInt64.size) :
    ReadsBack (integer 0 (UInt64.size - 1)) (writeDecimal value) (value : Int) := by
  have isWhole := isWhole_writeDecimal value
  have gives := @integer_gives_of_isWhole 0 (UInt64.size - 1) _ isWhole
  rw [digitsValue_writeDecimal] at gives
  refine ⟨isUtf8_of_short fun byte member => ?_, isValue_of_isWhole isWhole, gives fits ?_⟩
  · exact UInt8.lt_of_le_of_lt (isWhole.isDigits.2 byte member).2 (by decide)
  · have size : UInt64.size = 18446744073709551616 := rfl
    omega

/-- Each value has a name that stands for it. -/
def NamesAll {α : Type} [DecidableEq α] (names : List (String × α)) : Prop :=
  ∀ value, ∃ name, writeChoice names value = Quotation.write name ∧ names.lookup name = some value

/-- A value that is written by its name is read as that value. -/
theorem writeChoice_readsBack {α : Type} [DecidableEq α] {names : List (String × α)}
    (namesAll : NamesAll names) (value : α) :
    ReadsBack (choice names) (writeChoice names value) value := by
  obtain ⟨given, written, stands⟩ := namesAll value
  obtain ⟨isUtf8, isValue, isText⟩ := write_readsBack given
  rw [written]
  refine ⟨isUtf8, isValue, fun blanks rest isBlanks stops => ?_⟩
  have reads : text (Quotation.write given ++ rest) = .ok (given, rest) :=
    isText [] rest isBlanks_nil stops
  show choice names _ = _
  rw [choice, Quotation.write, List.cons_append, List.cons_append,
    skipBlanks_shown isBlanks (by decide)]
  show name names text (Quotation.write given ++ rest) = _
  rw [name, reads]
  simp only [bind, Except.bind, stands]
  rfl

theorem ofReader_readsBack {σ α : Type} {read : Reader α} {bytes : Bytes} {value : α}
    (readsBack : ReadsBack read bytes value) (name : String) (required : Bool) (put : α → σ → σ) :
    ReadsBack (Member.ofReader name required read put).read bytes (put value) :=
  ⟨readsBack.isUtf8, readsBack.isValue, ofReader_gives readsBack.gives name required put⟩

/-- A text that is read as a value is so as a whole. -/
theorem whole_of_gives {α : Type} {read : Reader α} {bytes : Bytes} {value : α}
    (gives : Gives read bytes (some value)) : whole read bytes = .ok value := by
  have reads : read ([] ++ (bytes ++ [])) = .ok (value, []) := gives [] [] isBlanks_nil stops_nil
  rw [List.nil_append, List.append_nil] at reads
  rw [Json.whole, reads]
  rfl

/-! ### Records of choices -/

section

variable {σ : Type} {members : List (Member σ)}

/-- A record whose members are given once, none of which has to be given, is the draft with all of
them put into it. -/
theorem filled_of_known (optional : ∀ member ∈ members, member.required = false)
    (put : String → σ → σ) {names seen : List String} (draft : σ)
    (known : ∀ name ∈ names, ∃ member, member? members name = some member) (once : names.Nodup)
    (fresh : ∀ name ∈ names, name ∉ seen) :
    filled members seen draft (names.map fun name => (name, some (put name))) =
      some (names.foldl (fun draft name => put name draft) draft) := by
  induction names generalizing seen draft with
  | nil =>
    have complete : (members.all fun member =>
        !member.required || seen.contains member.name) = true := by
      rw [List.all_eq_true]
      intro member inMembers
      rw [optional member inMembers]
      rfl
    exact if_pos complete
  | cons name names ih =>
    obtain ⟨⟨member, found⟩, knownLater⟩ := List.forall_mem_cons.mp known
    obtain ⟨notLater, onceLater⟩ := List.nodup_cons.mp once
    obtain ⟨notSeen, freshLater⟩ := List.forall_mem_cons.mp fresh
    rw [List.map_cons, filled_known found notSeen, Option.bind_some, List.foldl_cons]
    refine ih _ knownLater onceLater fun other inNames inSeen => ?_
    rcases List.mem_cons.mp inSeen with rfl | inSeen
    · exact notLater inNames
    · exact freshLater other inNames inSeen

/-- Where each member is written under its name, a written member is the one that its name finds. -/
theorem readsBack_of_mem {written : List (String × Bytes)} (put : String → σ → σ)
    (table : List.Forall₂ (fun member pair =>
      member.name = pair.1 ∧ ReadsBack member.read pair.2 (put pair.1)) members written)
    (once : (written.map Prod.fst).Nodup) {pair : String × Bytes} (inWritten : pair ∈ written) :
    ∃ member, member? members pair.1 = some member ∧
      ReadsBack member.read pair.2 (put pair.1) := by
  induction table with
  | nil => cases inWritten
  | @cons member first members written here _ ih =>
    obtain ⟨sameName, readsBack⟩ := here
    obtain ⟨notLater, onceLater⟩ := List.nodup_cons.mp once
    rcases List.mem_cons.mp inWritten with rfl | inLater
    · refine ⟨member, ?_, readsBack⟩
      rw [member?, List.find?_cons_of_pos (by simpa using sameName)]
    · obtain ⟨found, isFound, readsBackLater⟩ := ih onceLater inLater
      refine ⟨found, ?_, readsBackLater⟩
      have other : member.name ≠ pair.1 := fun same =>
        notLater (List.mem_map.mpr ⟨pair, inLater, same.symm.trans sameName⟩)
      rw [member?, List.find?_cons_of_neg (by simpa using other)]
      exact isFound

end

end Json

/-! ### Settings -/

theorem Mode.namesAll : Json.NamesAll Mode.names := by
  rintro (_ | _) <;> exact ⟨_, rfl, rfl⟩

theorem Layout.namesAll : Json.NamesAll Layout.names := by
  rintro (_ | _) <;> exact ⟨_, rfl, rfl⟩

theorem Grouping.namesAll : Json.NamesAll Grouping.names := by
  rintro (_ | _) <;> exact ⟨_, rfl, rfl⟩

theorem PathStyle.namesAll : Json.NamesAll PathStyle.names := by
  rintro (_ | _) <;> exact ⟨_, rfl, rfl⟩

namespace Settings

open Json

/-- The choices with these names as in the settings, the others as in the draft. -/
def onto (settings : Settings) (names : List String) (draft : Settings) : Settings where
  extensions := if "extensions" ∈ names then settings.extensions else draft.extensions
  ignoredPrefixes :=
    if "ignored_prefixes" ∈ names then settings.ignoredPrefixes else draft.ignoredPrefixes
  listEndpoint := if "list_endpoint" ∈ names then settings.listEndpoint else draft.listEndpoint
  getEndpoint := if "get_endpoint" ∈ names then settings.getEndpoint else draft.getEndpoint
  apiPaths := if "api_paths" ∈ names then settings.apiPaths else draft.apiPaths
  mode := if "mode" ∈ names then settings.mode else draft.mode
  layout := if "record_format" ∈ names then settings.layout else draft.layout
  grouping := if "list_logging" ∈ names then settings.grouping else draft.grouping
  pathStyle := if "hit_path_style" ∈ names then settings.pathStyle else draft.pathStyle
  consoleEcho := if "console_echo" ∈ names then settings.consoleEcho else draft.consoleEcho
  bodyLimit := if "debug_body_limit" ∈ names then settings.bodyLimit else draft.bodyLimit

theorem ite_mem_cons {α : Type} (key name : String) (names : List String) (chosen usual : α) :
    (if key ∈ names then chosen else if key ∈ [name] then chosen else usual) =
      if key ∈ name :: names then chosen else usual := by
  by_cases later : key ∈ names
  · rw [if_pos later, if_pos (List.mem_cons_of_mem name later)]
  · rw [if_neg later]
    simp only [List.mem_cons, later, List.not_mem_nil]

/-- Choices put into a draft one by one are all there. -/
theorem foldl_onto (settings : Settings) (names : List String) (draft : Settings) :
    names.foldl (fun draft name => settings.onto [name] draft) draft =
      settings.onto names draft := by
  induction names generalizing draft with
  | nil => rfl
  | cons name names ih =>
    rw [List.foldl_cons, ih]
    simp only [onto, ite_mem_cons]

/-- Each choice is written under its name, and is read into a draft from there. -/
theorem written_readsBack (settings : Settings) (fits : settings.bodyLimit < UInt64.size) :
    List.Forall₂ (fun (member : Member Settings) pair =>
      member.name = pair.1 ∧ ReadsBack member.read pair.2 (settings.onto [pair.1]))
      members settings.written :=
  .cons ⟨rfl, ofReader_readsBack (writeTexts_readsBack settings.extensions) _ _ _⟩ <|
  .cons ⟨rfl, ofReader_readsBack (writeTexts_readsBack settings.ignoredPrefixes) _ _ _⟩ <|
  .cons ⟨rfl, ofReader_readsBack (write_readsBack settings.listEndpoint) _ _ _⟩ <|
  .cons ⟨rfl, ofReader_readsBack (write_readsBack settings.getEndpoint) _ _ _⟩ <|
  .cons ⟨rfl, ofReader_readsBack (writeTexts_readsBack settings.apiPaths) _ _ _⟩ <|
  .cons ⟨rfl, ofReader_readsBack (writeChoice_readsBack Mode.namesAll settings.mode) _ _ _⟩ <|
  .cons ⟨rfl, ofReader_readsBack (writeChoice_readsBack Layout.namesAll settings.layout) _ _ _⟩ <|
  .cons ⟨rfl, ofReader_readsBack (writeChoice_readsBack Grouping.namesAll settings.grouping) _ _ _⟩ <|
  .cons ⟨rfl, ofReader_readsBack (writeChoice_readsBack PathStyle.namesAll settings.pathStyle) _ _ _⟩ <|
  .cons ⟨rfl, ofReader_readsBack (writeBool_readsBack settings.consoleEcho) _ _ _⟩ <|
  .cons ⟨rfl, ofReader_readsBack (writeDecimal_readsBack fits) _ _ _⟩ .nil

theorem nodup_written (settings : Settings) : (settings.written.map Prod.fst).Nodup := by
  show ["extensions", "ignored_prefixes", "list_endpoint", "get_endpoint", "api_paths", "mode",
    "record_format", "list_logging", "hit_path_style", "console_echo", "debug_body_limit"].Nodup
  decide

/-- An object of some written choices is read as the usual settings with these choices put into them. -/
theorem chosen_gives (settings : Settings) (fits : settings.bodyLimit < UInt64.size)
    {chosen : List (String × Bytes)} (isChosen : chosen.Subperm settings.written) :
    IsUtf8 (writeObject chosen) ∧
      Gives (record members {}) (writeObject chosen)
        (some (settings.onto (chosen.map Prod.fst) {})) := by
  have readsBack : ∀ pair ∈ chosen, ∃ member, member? members pair.1 = some member ∧
      ReadsBack member.read pair.2 (settings.onto [pair.1]) := fun pair inChosen =>
    readsBack_of_mem (fun name => settings.onto [name]) (settings.written_readsBack fits)
      settings.nodup_written (isChosen.subset inChosen)
  have once : (chosen.map Prod.fst).Nodup := by
    obtain ⟨kept, isPerm, isSublist⟩ := isChosen
    exact (isPerm.map Prod.fst).nodup_iff.mp
      ((isSublist.map Prod.fst).nodup settings.nodup_written)
  have isObject : IsObject chosen (writeObject chosen) := isObject_writeObject fun pair inChosen => by
    obtain ⟨member, -, isRead⟩ := readsBack pair inChosen
    exact isRead.isValue
  have gives : Gives (record members {}) (writeObject chosen)
      (filled members [] {} (chosen.map fun pair => (pair.1, some (settings.onto [pair.1])))) := by
    refine record_gives isObject (fun pair inChosen member found => ?_) ({} : Settings)
    obtain ⟨other, otherFound, isRead⟩ := readsBack pair inChosen
    obtain rfl := Option.some.inj (otherFound.symm.trans found)
    exact isRead.gives
  have filledAll : filled members [] {}
      ((chosen.map Prod.fst).map fun name => (name, some (settings.onto [name]))) =
        some (settings.onto (chosen.map Prod.fst) {}) := by
    rw [← foldl_onto]
    refine filled_of_known ?_ (fun name => settings.onto [name]) {} ?_ once
      fun _ _ => List.not_mem_nil
    · simp [members, Member.ofReader]
    · refine List.forall_mem_map.mpr fun pair inChosen => ?_
      obtain ⟨member, found, -⟩ := readsBack pair inChosen
      exact ⟨member, found⟩
  rw [List.map_map] at filledAll
  refine ⟨isUtf8_writeObject fun pair inChosen => ?_, filledAll ▸ gives⟩
  obtain ⟨member, -, isRead⟩ := readsBack pair inChosen
  exact isRead.isUtf8

theorem checked_eq (settings : Settings) :
    settings.checked =
      if settings.problems = [] then .ok settings else .error (.invalid settings.problems) := by
  unfold checked
  split
  · rename_i sound
    rw [if_pos sound]
  · rename_i problem more reported
    rw [if_neg (reported ▸ List.cons_ne_nil problem more), reported]

/-- All choices of settings, put into any draft, are the settings. -/
theorem onto_written (settings draft : Settings) :
    settings.onto (settings.written.map Prod.fst) draft = settings := rfl

/-- **Written choices are read back.** Whichever choices of settings are written, in whatever order, the
text of the object is read as the usual settings with just these choices replaced. They are refused
only for the rules that they break, and with all of these; never for how they are written. Settings
that keep all rules are read back from the text of all their choices. -/
theorem ofJson_of_chosen (settings : Settings) (fits : settings.bodyLimit < UInt64.size) :
    (∀ chosen : List (String × Bytes), chosen.Subperm settings.written →
      let read := settings.onto (chosen.map Prod.fst) {}
      ∃ text, encode text = writeObject chosen ∧
        ofJson text =
          if read.problems = [] then .ok read else .error (.invalid read.problems)) ∧
      (settings.problems = [] → ∃ text, encode text = settings.toJson ∧ ofJson text = .ok settings) := by
  have readChosen : ∀ chosen : List (String × Bytes), chosen.Subperm settings.written →
      ∃ text, encode text = writeObject chosen ∧
        ofJson text = (settings.onto (chosen.map Prod.fst) {}).checked := by
    intro chosen isChosen
    obtain ⟨⟨text, encoded⟩, gives⟩ := settings.chosen_gives fits isChosen
    refine ⟨text, encoded, ?_⟩
    rw [ofJson, ofBytes, encoded, whole_of_gives gives]
  refine ⟨fun chosen isChosen => ?_, fun valid => ?_⟩
  · obtain ⟨text, encoded, isRead⟩ := readChosen chosen isChosen
    exact ⟨text, encoded, isRead.trans (checked_eq _)⟩
  · obtain ⟨text, encoded, isRead⟩ := readChosen settings.written (List.Subperm.refl _)
    refine ⟨text, encoded, ?_⟩
    rw [isRead, onto_written, checked_eq, if_pos valid]

/-- Two choices, in an order of their own, of settings that differ from the usual ones in a third one
as well; all choices of these settings; and a choice that breaks a rule. -/
theorem ofJson_of_two_choices :
    let settings : Settings :=
      { listEndpoint := "/媒体\n", mode := .debug, bodyLimit := 18446744073709551615 }
    let limit := ("debug_body_limit", Json.writeDecimal settings.bodyLimit)
    let endpoint := ("list_endpoint", Json.Quotation.write settings.listEndpoint)
    let unruly : Settings := { ignoredPrefixes := [""] }
    settings.bodyLimit < UInt64.size ∧
    (∃ text, encode text = Json.writeObject [limit, endpoint] ∧
      ofJson text = .ok { listEndpoint := "/媒体\n", bodyLimit := 18446744073709551615 }) ∧
    (∃ text, encode text = settings.toJson ∧ ofJson text = .ok settings) ∧
    ∃ text, encode text =
        Json.writeObject [("ignored_prefixes", writeTexts unruly.ignoredPrefixes)] ∧
      ofJson text = .error (.invalid [.emptyIgnoredPrefix]) := by
  intro settings limit endpoint unruly
  have fits : settings.bodyLimit < UInt64.size := by decide
  have isChosen : [limit, endpoint].Subperm settings.written :=
    ⟨[endpoint, limit], .swap _ _ _, .cons _ <| .cons _ <| .cons_cons _ <| .cons _ <| .cons _ <| .cons _ <|
      .cons _ <| .cons _ <| .cons _ <| .cons _ <| .cons_cons _ .slnil⟩
  obtain ⟨chosenRead, allRead⟩ := ofJson_of_chosen settings fits
  have unrulyChosen :
      [("ignored_prefixes", writeTexts unruly.ignoredPrefixes)].Subperm unruly.written :=
    List.singleton_subperm_iff.mpr (.tail _ (.head _))
  refine ⟨fits, ?_, allRead (by decide), ?_⟩
  · obtain ⟨text, encoded, isRead⟩ := chosenRead _ isChosen
    exact ⟨text, encoded, isRead.trans (if_pos (by decide))⟩
  · obtain ⟨text, encoded, isRead⟩ := (ofJson_of_chosen unruly (by decide)).1 _ unrulyChosen
    refine ⟨text, encoded, isRead.trans ?_⟩
    decide

end Settings

end MediaTrail
