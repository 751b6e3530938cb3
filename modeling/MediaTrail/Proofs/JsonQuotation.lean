/-
**Quotations are read back.** In whatever forms the characters of a text stand between quotes, what is
read is that text: each form adds the bytes of its character, and the bytes of the whole are those of
the text.

* `readFrom_unit`: the four digits of a code unit lead to the step of that unit;
* `read_of_spells`: a quotation that stands for a text is read as that text;
* `Spells.isQuoted`: it is one that is passed over as well.
-/

import MediaTrail.Json.Quotation
import MediaTrail.Proofs.Encoding
import MediaTrail.Proofs.JsonText

namespace MediaTrail.Json.Quotation

open Text (Bytes)

/-! ### Escapes -/

theorem step_short {mark : UInt8} {meant : Char} (isShort : (mark, meant) ∈ shortEscapes) :
    step .escape mark = .on .plain (String.utf8EncodeChar meant) := by
  simp only [shortEscapes, List.mem_cons, List.not_mem_nil, or_false, Prod.mk.injEq] at isShort
  rcases isShort with ⟨rfl, rfl⟩ | ⟨rfl, rfl⟩ | ⟨rfl, rfl⟩ | ⟨rfl, rfl⟩ | ⟨rfl, rfl⟩ | ⟨rfl, rfl⟩ |
    ⟨rfl, rfl⟩ | ⟨rfl, rfl⟩ <;> rfl

theorem hexValue?_of_isHexDigit {byte : UInt8} {value : Nat} (isDigit : IsHexDigit byte value) :
    hexValue? byte = some value := by
  have reach (low high : UInt8) : (decide (low ≤ byte) && decide (byte ≤ high)) = true ↔
      low.toNat ≤ byte.toNat ∧ byte.toNat ≤ high.toNat := by
    rw [Bool.and_eq_true, decide_eq_true_eq, decide_eq_true_eq, UInt8.le_iff_toNat_le,
      UInt8.le_iff_toNat_le]
  rw [hexValue?]
  simp only [reach]
  show (if 0x30 ≤ byte.toNat ∧ byte.toNat ≤ 0x39 then _ else
    if 0x41 ≤ byte.toNat ∧ byte.toNat ≤ 0x46 then _ else
    if 0x61 ≤ byte.toNat ∧ byte.toNat ≤ 0x66 then _ else _) = _
  obtain ⟨small, ⟨isDecimal, equal⟩ | ⟨isLetter, capital | little⟩⟩ := isDigit
  · rw [if_pos (by omega), equal, Nat.add_sub_cancel]
  · rw [if_neg (by omega), if_pos (by omega), capital, Nat.add_sub_cancel]
  · rw [if_neg (by omega), if_neg (by omega), if_pos (by omega), little, Nat.add_sub_cancel]

theorem readFrom_on {place next : Place} {byte : UInt8} {added : Bytes} (done rest : Bytes)
    (goes : step place byte = .on next added) :
    readFrom place done (byte :: rest) = readFrom next (added.reverse ++ done) rest := by
  rw [readFrom, goes]

theorem step_digit {lead : Option Nat} {before value left : Nat} {byte : UInt8}
    (isDigit : IsHexDigit byte value) : step (.unit lead before true (left + 1)) byte =
      .on (.unit lead (before * 0x10 + value) true left) [] := by
  rw [step, hexValue?_of_isHexDigit isDigit]
  rfl

theorem step_lastDigit {lead : Option Nat} {before value : Nat} {byte : UInt8}
    (isDigit : IsHexDigit byte value) : step (.unit lead before true 0) byte =
      unitStep lead (before * 0x10 + value) := by
  rw [step, hexValue?_of_isHexDigit isDigit]
  rfl

/-- **The digits of a code unit lead to the step of that unit.** -/
theorem readFrom_unit {digits : Bytes} {code : Nat} (isUnit : IsUnit digits code) {lead : Option Nat}
    {next : Place} {added : Bytes} (done rest : Bytes) (goes : unitStep lead code = .on next added) :
    readFrom (.unit lead 0 true 3) done (digits ++ rest) =
      readFrom next (added.reverse ++ done) rest := by
  cases isUnit with
  | @digits first second third fourth a b c d one two three four =>
    have noneBefore : 0 * 0x10 + a = a := by omega
    have last : step (.unit lead ((a * 0x10 + b) * 0x10 + c) true 0) fourth = .on next added := by
      rw [step_lastDigit four, goes]
    show readFrom _ done (first :: second :: third :: fourth :: rest) = _
    rw [readFrom_on done _ (step_digit one), noneBefore, readFrom_on _ _ (step_digit two),
      readFrom_on _ _ (step_digit three), readFrom_on _ _ last]
    rfl

/-! ### Characters as they are -/

/-- A byte that stands for itself. -/
def IsPlain (byte : UInt8) : Prop :=
  0x20 ≤ byte ∧ byte ≠ 0x22 ∧ byte ≠ 0x5C

/-- The bytes of a visible character stand for themselves. -/
theorem isPlain_of_mem_encodeChar {char : Char} (visible : 0x20 ≤ char.toNat) (noQuote : char ≠ '"')
    (noEscape : char ≠ '\\') : ∀ byte ∈ String.utf8EncodeChar char, IsPlain byte := by
  intro byte member
  rcases Text.Utf8.of_mem_encodeChar member with ⟨rfl, short⟩ | long
  · have value : (UInt8.ofNat char.toNat).toNat = char.toNat := by
      rw [UInt8.toNat_ofNat', Nat.mod_eq_of_lt (by omega)]
    have differs : ∀ other : Char, other.toNat < 0x80 → char ≠ other →
        UInt8.ofNat char.toNat ≠ UInt8.ofNat other.toNat := by
      intro other small different same
      have codes := congrArg UInt8.toNat same
      rw [value, UInt8.toNat_ofNat', Nat.mod_eq_of_lt (by omega)] at codes
      exact different (Char.toNat_inj.mp codes)
    refine ⟨?_, differs '"' (by decide) noQuote, differs '\\' (by decide) noEscape⟩
    rw [UInt8.le_iff_toNat_le, value]
    exact visible
  · refine ⟨UInt8.le_iff_toNat_le.mpr (Nat.le_trans (by decide) long), ?_, ?_⟩
    · rintro rfl
      exact absurd long (by decide)
    · rintro rfl
      exact absurd long (by decide)

theorem readFrom_plain {bytes : Bytes} (plain : ∀ byte ∈ bytes, IsPlain byte) (done rest : Bytes) :
    readFrom .plain done (bytes ++ rest) = readFrom .plain (bytes.reverse ++ done) rest := by
  induction bytes generalizing done with
  | nil => rfl
  | cons byte bytes ih =>
    obtain ⟨visible, noQuote, noEscape⟩ := plain byte List.mem_cons_self
    have goes : step .plain byte = .on .plain [byte] := by
      rw [step, if_neg noQuote, if_neg noEscape, if_neg (UInt8.not_lt.mpr visible)]
    rw [List.cons_append, readFrom_on done _ goes,
      ih fun other member => plain other (List.mem_cons_of_mem _ member)]
    simp

/-! ### Code units -/

theorem unitStep_char (char : Char) :
    unitStep none char.toNat = .on .plain (String.utf8EncodeChar char) := by
  have valid : char.toNat < 0xD800 ∨ (0xDFFF < char.toNat ∧ char.toNat < 0x110000) := char.valid
  have noTrail : isTrail char.toNat = false := by
    rw [isTrail, Bool.and_eq_false_iff, decide_eq_false_iff_not, decide_eq_false_iff_not]
    omega
  have noLead : isLead char.toNat = false := by
    rw [isLead, Bool.and_eq_false_iff, decide_eq_false_iff_not, decide_eq_false_iff_not]
    omega
  rw [unitStep, noTrail, noLead, Char.ofNat_toNat]
  rfl

/-- The first unit of a pair asks for the second. -/
theorem unitStep_lead {lead : Nat} (inRange : 0xD800 ≤ lead ∧ lead < 0xDC00) :
    unitStep none lead = .on (.pair lead) [] := by
  have noTrail : isTrail lead = false := by
    rw [isTrail, Bool.and_eq_false_iff, decide_eq_false_iff_not, decide_eq_false_iff_not]
    omega
  have leads : isLead lead = true := by
    rw [isLead, Bool.and_eq_true, decide_eq_true_eq, decide_eq_true_eq]
    omega
  rw [unitStep, noTrail, leads]
  rfl

/-- The second unit of a pair completes its character. -/
theorem unitStep_trail {lead trail : Nat} {char : Char} (inRange : 0xDC00 ≤ trail ∧ trail < 0xE000)
    (stands : char.toNat = 0x10000 + (lead - 0xD800) * 0x400 + (trail - 0xDC00)) :
    unitStep (some lead) trail = .on .plain (String.utf8EncodeChar char) := by
  have trails : isTrail trail = true := by
    rw [isTrail, Bool.and_eq_true, decide_eq_true_eq, decide_eq_true_eq]
    omega
  have value : pairValue lead trail = char.toNat := by
    rw [pairValue, stands]
    omega
  rw [unitStep, trails, value, Char.ofNat_toNat]
  rfl

/-! ### Texts -/

/-- Characters in any of their forms add their bytes. -/
theorem readFrom_spells {chars : List Char} {body : Bytes} (spells : Spells chars body)
    (done rest : Bytes) : readFrom .plain done (body ++ rest) =
      readFrom .plain ((chars.flatMap String.utf8EncodeChar).reverse ++ done) rest := by
  have escape : step .plain 0x5C = .on .escape [] := rfl
  have mark : step .escape 0x75 = .on (.unit none 0 true 3) [] := rfl
  induction spells generalizing done with
  | nil => rfl
  | plain visible noQuote noEscape later ih =>
    rw [List.append_assoc, readFrom_plain (isPlain_of_mem_encodeChar visible noQuote noEscape), ih]
    simp
  | short isShort later ih =>
    rw [List.cons_append, List.cons_append, readFrom_on done _ escape,
      readFrom_on _ _ (step_short isShort), ih]
    simp
  | unit isUnit later ih =>
    rw [List.cons_append, List.cons_append, List.append_assoc, readFrom_on done _ escape,
      readFrom_on _ _ mark, readFrom_unit isUnit _ _ (unitStep_char _), ih]
    simp
  | @pair leading trailing rest lead trail char chars isLead isTrail first second stands later ih =>
    have pair : step (.pair lead) 0x5C = .on (.pairMark lead) [] := rfl
    have pairMark : step (.pairMark lead) 0x75 = .on (.unit (some lead) 0 true 3) [] := rfl
    rw [List.cons_append, List.cons_append, List.append_assoc, List.cons_append, List.cons_append,
      List.append_assoc, readFrom_on done _ escape, readFrom_on _ _ mark,
      readFrom_unit first _ _ (unitStep_lead isLead), readFrom_on _ _ pair, readFrom_on _ _ pairMark,
      readFrom_unit second _ _ (unitStep_trail isTrail stands), ih]
    simp

/-- The quote that closes ends the text, if its bytes are one. -/
theorem readFrom_close {done : Bytes} {text : String}
    (decoded : Text.Utf8.decode? done.reverse = some text) (rest : Bytes) :
    readFrom .plain done (0x22 :: rest) = .ok (text, rest) := by
  have closes : step .plain 0x22 = .close := rfl
  simp [readFrom, closes, decoded]

theorem readFrom_close_none {done : Bytes} (decoded : Text.Utf8.decode? done.reverse = none)
    (rest : Bytes) : readFrom .plain done (0x22 :: rest) = .error .malformed := by
  have closes : step .plain 0x22 = .close := rfl
  simp [readFrom, closes, decoded]

/-- **A quotation that stands for a text is read as that text.** -/
theorem read_of_spells {text : String} {body : Bytes} (spells : Spells text.toList body)
    (rest : Bytes) : read (body ++ 0x22 :: rest) = .ok (text, rest) := by
  rw [read, readFrom_spells spells]
  refine readFrom_close ?_ rest
  rw [List.append_nil, List.reverse_reverse, Text.Utf8.decode?_encode, String.ofList_toList]

/-! ### Quotations of any kind -/

/-- What is read between quotes, or that nothing is, does not depend on what follows them. -/
def Decides (place : Place) (done body : Bytes) : Prop :=
  (∃ text, ∀ rest, readFrom place done (body ++ 0x22 :: rest) = .ok (text, rest)) ∨
    ∃ fault, ∀ rest, readFrom place done (body ++ 0x22 :: rest) = .error fault

/-- A byte hands the decision on to what follows it. -/
theorem decides_on {place next : Place} {byte : UInt8} {added done body : Bytes}
    (goes : step place byte = .on next added) (later : Decides next (added.reverse ++ done) body) :
    Decides place done (byte :: body) := by
  have same : ∀ rest, readFrom place done (byte :: body ++ 0x22 :: rest) =
      readFrom next (added.reverse ++ done) (body ++ 0x22 :: rest) := fun rest =>
    readFrom_on done _ goes
  rcases later with ⟨text, reads⟩ | ⟨fault, refuses⟩
  · exact Or.inl ⟨text, fun rest => (same rest).trans (reads rest)⟩
  · exact Or.inr ⟨fault, fun rest => (same rest).trans (refuses rest)⟩

theorem decides_fail {place : Place} {byte : UInt8} (done body : Bytes)
    (fails : step place byte = .fail) : Decides place done (byte :: body) := by
  refine Or.inr ⟨.malformed, fun rest => ?_⟩
  rw [List.cons_append, readFrom, fails]

theorem unitStep_ne_close (lead : Option Nat) (code : Nat) : unitStep lead code ≠ .close := by
  cases lead with
  | none =>
    show (if isTrail code = true then _ else if isLead code = true then _ else _) ≠ _
    split
    · exact Step.noConfusion
    · split <;> exact Step.noConfusion
  | some lead =>
    show (if isTrail code = true then _ else _) ≠ _
    split <;> exact Step.noConfusion

/-- The digits of a code unit hand the decision on to the place that the unit leads to. -/
theorem decides_unit {digits body : Bytes} {code : Nat} (isUnit : IsUnit digits code)
    (lead : Option Nat) (done : Bytes)
    (later : ∀ place added, unitStep lead code = .on place added →
      Decides place (added.reverse ++ done) body) :
    Decides (.unit lead 0 true 3) done (digits ++ body) := by
  cases isUnit with
  | @digits first second third fourth a b c d one two three four =>
    have noneBefore : 0 * 0x10 + a = a := by omega
    refine decides_on (step_digit one) (decides_on (step_digit two) (decides_on (step_digit three) ?_))
    rw [noneBefore]
    have last := @step_lastDigit lead ((a * 0x10 + b) * 0x10 + c) d fourth four
    cases leads : unitStep lead (((a * 0x10 + b) * 0x10 + c) * 0x10 + d) with
    | on place added =>
      refine decides_on (last.trans leads) ?_
      exact later place added leads
    | close => exact absurd leads (unitStep_ne_close lead _)
    | fail => exact decides_fail _ body (last.trans leads)

/-- **What is read between quotes does not depend on what follows,** behind a first unit or not. The two
places go into one induction: a first unit leads to the second of them, and a second unit back to the
first. -/
theorem decides_of_isQuoted {body : Bytes} (isQuoted : IsQuoted body) :
    (∀ done, Decides .plain done body) ∧ ∀ lead done, Decides (.pair lead) done body := by
  have escape : step .plain 0x5C = .on .escape [] := rfl
  have mark : step .escape 0x75 = .on (.unit none 0 true 3) [] := rfl
  have pair : ∀ lead, step (.pair lead) 0x5C = .on (.pairMark lead) [] := fun _ => rfl
  have pairMark : ∀ lead, step (.pairMark lead) 0x75 = .on (.unit (some lead) 0 true 3) [] :=
    fun _ => rfl
  induction isQuoted with
  | nil =>
    refine ⟨fun done => ?_, fun lead done => ?_⟩
    · cases decoded : Text.Utf8.decode? done.reverse with
      | some text => exact Or.inl ⟨text, readFrom_close decoded⟩
      | none => exact Or.inr ⟨.malformed, readFrom_close_none decoded⟩
    · exact Or.inr ⟨.malformed, fun _ => rfl⟩
  | @plain byte rest visible noQuote noEscape later ih =>
    have stays : step .plain byte = .on .plain [byte] := by
      rw [step, if_neg noQuote, if_neg noEscape, if_neg (UInt8.not_lt.mpr visible)]
    refine ⟨fun done => decides_on stays (ih.1 _), fun lead done => decides_fail done rest ?_⟩
    rw [step, if_neg noEscape]
  | @short mark meant rest isShort later ih =>
    refine ⟨fun done => decides_on escape (decides_on (step_short isShort) (ih.1 _)),
      fun lead done => decides_on (pair lead) (decides_fail _ rest ?_)⟩
    have noUnit : mark ≠ 0x75 := by
      rintro rfl
      simp [shortEscapes] at isShort
    rw [step, if_neg noUnit]
  | @unit digits rest code isUnit later ih =>
    refine ⟨fun done => decides_on escape (decides_on mark (decides_unit isUnit none _ ?_)),
      fun lead done => decides_on (pair lead) (decides_on (pairMark lead)
        (decides_unit isUnit (some lead) _ ?_))⟩
    · intro place added leads
      rw [unitStep] at leads
      by_cases trails : isTrail code = true
      · rw [if_pos trails] at leads
        cases leads
      · rw [if_neg trails] at leads
        by_cases isLead : isLead code = true
        · rw [if_pos isLead] at leads
          cases leads
          exact ih.2 _ _
        · rw [if_neg isLead] at leads
          cases leads
          exact ih.1 _
    · intro place added leads
      rw [unitStep] at leads
      by_cases trails : isTrail code = true
      · rw [if_pos trails] at leads
        cases leads
        exact ih.1 _
      · rw [if_neg trails] at leads
        cases leads

theorem isQuoted_append {bytes rest : Bytes} (plain : ∀ byte ∈ bytes, IsPlain byte)
    (later : IsQuoted rest) : IsQuoted (bytes ++ rest) := by
  induction bytes with
  | nil => exact later
  | cons byte bytes ih =>
    obtain ⟨visible, noQuote, noEscape⟩ := plain byte List.mem_cons_self
    exact .plain visible noQuote noEscape
      (ih fun other member => plain other (List.mem_cons_of_mem _ member))

/-- What stands for a text is one of the things that may stand between quotes. -/
theorem isQuoted_of_spells {chars : List Char} {body : Bytes} (spells : Spells chars body) :
    IsQuoted body := by
  induction spells with
  | nil => exact .nil
  | plain visible noQuote noEscape later ih =>
    exact isQuoted_append (isPlain_of_mem_encodeChar visible noQuote noEscape) ih
  | short isShort later ih => exact .short isShort ih
  | unit isUnit later ih => exact .unit isUnit ih
  | pair isLead isTrail first second stands later ih => exact .unit first (.unit second ih)

end MediaTrail.Json.Quotation
