/-
**What is written is JSON.** The compact form keeps to the grammar: quotations stand for the texts that
they were written from, and arrays and objects hold the values that were put into them.

* `isText_write`: a written text stands for that text;
* `isArray_writeArray`, `isObject_writeObject`: arrays and objects of written values.
-/

import MediaTrail.Json.Writing
import MediaTrail.Proofs.JsonQuotation

namespace MediaTrail.Json

open Text (Bytes)

/-! ### Texts -/

theorem isHexDigit_hexDigit {value : Nat} (small : value < 0x10) :
    IsHexDigit (Quotation.hexDigit value) value := by
  refine ⟨small, ?_⟩
  unfold Quotation.hexDigit
  by_cases isDecimal : value < 10
  · rw [if_pos isDecimal]
    refine Or.inl ⟨isDecimal, ?_⟩
    show (UInt8.ofNat (0x30 + value)).toNat = value + 0x30
    rw [UInt8.toNat_ofNat', Nat.mod_eq_of_lt (by omega)]
    omega
  · rw [if_neg isDecimal]
    refine Or.inr ⟨Nat.not_lt.mp isDecimal, Or.inr ?_⟩
    show (UInt8.ofNat (0x57 + value)).toNat = value + 0x57
    rw [UInt8.toNat_ofNat', Nat.mod_eq_of_lt (by omega)]
    omega

theorem isUnit_control {code : Nat} (control : code < 0x20) :
    IsUnit [0x30, 0x30, Quotation.hexDigit (code / 16), Quotation.hexDigit (code % 16)] code := by
  have zero : IsHexDigit 0x30 0 := ⟨by decide, Or.inl ⟨by decide, rfl⟩⟩
  have digits := IsUnit.digits zero zero
    (@isHexDigit_hexDigit (code / 16) (by omega)) (@isHexDigit_hexDigit (code % 16) (by omega))
  have value : ((0 * 0x10 + 0) * 0x10 + code / 16) * 0x10 + code % 16 = code := by omega
  rw [value] at digits
  exact digits

/-- The written form of a character spells it. -/
theorem spells_writeChar (char : Char) {chars : List Char} {rest : Bytes}
    (later : Spells chars rest) : Spells (char :: chars) (Quotation.writeChar char ++ rest) := by
  unfold Quotation.writeChar
  split
  · exact .short (by decide) later
  · exact .short (by decide) later
  · exact .short (by decide) later
  · exact .short (by decide) later
  · exact .short (by decide) later
  · exact .short (by decide) later
  · exact .short (by decide) later
  · rename_i noQuote noEscape _ _ _ _ _
    by_cases control : char.toNat < 0x20
    · rw [if_pos control]
      exact .unit (isUnit_control control) later
    · rw [if_neg control]
      exact .plain (Nat.not_lt.mp control) noQuote noEscape later

/-- **A written text stands for that text.** -/
theorem isText_write (text : String) : IsText text (Quotation.write text) := by
  have spells : ∀ chars : List Char, Spells chars (chars.flatMap Quotation.writeChar) := by
    intro chars
    induction chars with
    | nil => exact .nil
    | cons char chars ih => exact spells_writeChar char ih
  exact ⟨_, spells text.toList, rfl⟩

theorem isValue_of_isText {text : String} {bytes : Bytes} (isText : IsText text bytes) :
    IsValue bytes := by
  obtain ⟨body, spells, rfl⟩ := isText
  exact .quotation (Quotation.isQuoted_of_spells spells)

/-- A number without sign, fraction and exponent is a value. -/
theorem isValue_of_isWhole {whole : Bytes} (isWhole : IsWhole whole) : IsValue whole := by
  have isNumber := IsNumber.parts (Or.inl rfl) isWhole .none .none
  simp only [List.nil_append, List.append_nil] at isNumber
  exact .number isNumber

/-! ### Arrays and objects -/

/-- Pieces with commas between them are a row. -/
theorem isRow_commaSeparated {κ : Type} {isPiece : κ → Bytes → Prop} (write : κ → Bytes)
    {pieces : List κ} (each : ∀ piece ∈ pieces, isPiece piece (write piece)) :
    IsRow isPiece pieces (commaSeparated (pieces.map write)) := by
  induction pieces with
  | nil => exact .none isBlanks_nil
  | cons piece pieces ih =>
    have here := each piece List.mem_cons_self
    have later := ih fun other member => each other (List.mem_cons_of_mem _ member)
    cases pieces with
    | nil =>
      have row := IsRow.last isBlanks_nil here isBlanks_nil
      rw [List.nil_append, List.append_nil] at row
      exact row
    | cons next pieces =>
      exact IsRow.more isBlanks_nil here isBlanks_nil (List.cons_ne_nil _ _) later

/-- **A written array is one of the values put into it.** -/
theorem isArray_writeArray {items : List Bytes} (each : ∀ item ∈ items, IsValue item) :
    IsArray items (writeArray items) := by
  refine ⟨each, commaSeparated items, ?_, rfl⟩
  have row : IsRow Eq items (commaSeparated (items.map id)) := isRow_commaSeparated id fun _ _ => rfl
  rw [List.map_id] at row
  exact row

/-- An array of one value. -/
theorem isArray_writeArray_one {item : Bytes} (isValue : IsValue item) :
    IsArray [item] (writeArray [item]) := by
  refine isArray_writeArray fun other member => ?_
  rw [List.mem_singleton.mp member]
  exact isValue

/-- **A written object has the keys and values put into it.** -/
theorem isObject_writeObject {members : List (String × Bytes)}
    (each : ∀ member ∈ members, IsValue member.2) : IsObject members (writeObject members) := by
  refine ⟨each, _, isRow_commaSeparated _ ?_, rfl⟩
  rintro ⟨key, value⟩ -
  exact .parts (isText_write key) isBlanks_nil isBlanks_nil

/-- What is an array or an object is a value. -/
theorem isValue_of_isArray {items : List Bytes} {text : Bytes} (isArray : IsArray items text) :
    IsValue text := by
  obtain ⟨each, row, isRow, rfl⟩ := isArray
  exact .array each isRow

end MediaTrail.Json
