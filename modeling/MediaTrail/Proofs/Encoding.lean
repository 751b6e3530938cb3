/-
**Text from its own bytes.** The bytes of a character are read back as that character, whatever
follows them, so that the bytes of a text are read back as the text.

The second byte of a long sequence has narrower bounds behind some first bytes. They leave out what
no character is written as: forms that are too long, surrogates and what lies beyond the last one.

* `Sequence`: the sequences of one to four bytes, with the code that each stands for;
* `Sequence.run_eq`, `run_encodeChar`: the bytes of one character;
* `decode?_encode`, `lossy_encode`: the bytes of a text.
-/

import MediaTrail.Text.Utf8

namespace MediaTrail.Text.Utf8

/-! ### First bytes -/

theorem start?_two (high : Nat) (above : 2 ≤ high) (below : high < 0x20) :
    start? (UInt8.ofNat (high + 0xC0)) = some ⟨high, 0x80, 0xBF, 0⟩ := by
  have all : ∀ high : Fin 0x20, 2 ≤ high.val →
      start? (UInt8.ofNat (high.val + 0xC0)) = some ⟨high, 0x80, 0xBF, 0⟩ := by decide
  exact all ⟨high, below⟩ above

theorem start?_three (high : Nat) (below : high < 0x10) :
    start? (UInt8.ofNat (high + 0xE0)) = some ⟨high, if high = 0 then 0xA0 else 0x80,
      if high = 0xD then 0x9F else 0xBF, 1⟩ := by
  have all : ∀ high : Fin 0x10, start? (UInt8.ofNat (high.val + 0xE0)) =
      some ⟨high, if high.val = 0 then 0xA0 else 0x80,
        if high.val = 0xD then 0x9F else 0xBF, 1⟩ := by decide
  exact all ⟨high, below⟩

theorem start?_four (high : Nat) (below : high < 5) :
    start? (UInt8.ofNat (high + 0xF0)) = some ⟨high, if high = 0 then 0x90 else 0x80,
      if high = 4 then 0x8F else 0xBF, 2⟩ := by
  have all : ∀ high : Fin 5, start? (UInt8.ofNat (high.val + 0xF0)) =
      some ⟨high, if high.val = 0 then 0x90 else 0x80,
        if high.val = 4 then 0x8F else 0xBF, 2⟩ := by decide
  exact all ⟨high, below⟩

theorem next_start {byte : UInt8} {under : Partial} (starts : start? byte = some under) :
    next none byte = ([], some under) := by
  have long : ¬ byte < 0x80 := by
    intro short
    have small : byte < 0xC2 := UInt8.lt_trans short (by decide)
    rw [start?, if_pos small] at starts
    cases starts
  rw [next, first, if_neg long, starts]

/-! ### Bytes that follow -/

theorem toNat_ofNat_add {low offset : Nat} (small : low + offset < 0x100) :
    (UInt8.ofNat (low + offset)).toNat = low + offset := by
  rw [UInt8.toNat_ofNat', Nat.mod_eq_of_lt small]

theorem within_of_le {low : Nat} {least most : UInt8} (small : low < 0x40)
    (above : least.toNat ≤ low + 0x80) (below : low + 0x80 ≤ most.toNat) :
    (decide (least ≤ UInt8.ofNat (low + 0x80)) && decide (UInt8.ofNat (low + 0x80) ≤ most)) = true := by
  rw [Bool.and_eq_true, decide_eq_true_eq, decide_eq_true_eq, UInt8.le_iff_toNat_le,
    UInt8.le_iff_toNat_le, toNat_ofNat_add (by omega)]
  exact ⟨above, below⟩

theorem lowBits_ofNat {low : Nat} (small : low < 0x40) :
    (UInt8.ofNat (low + 0x80)).toNat % 0x40 = low := by
  rw [toNat_ofNat_add (by omega)]
  omega

/-- A byte within the bounds adds its six bits: the last one completes the character, and another one
asks for the next. -/
theorem next_last {bits low : Nat} {least most : UInt8} (small : low < 0x40)
    (above : least.toNat ≤ low + 0x80) (below : low + 0x80 ≤ most.toNat) :
    next (some ⟨bits, least, most, 0⟩) (UInt8.ofNat (low + 0x80)) =
      ([some (Char.ofNat (bits * 0x40 + low))], none) := by
  refine (if_pos (within_of_le small above below)).trans ?_
  show ([some (Char.ofNat (bits * 0x40 + (UInt8.ofNat (low + 0x80)).toNat % 0x40))], none) = _
  rw [lowBits_ofNat small]

theorem next_more {bits low : Nat} {least most : UInt8} (small : low < 0x40)
    (above : least.toNat ≤ low + 0x80) (below : low + 0x80 ≤ most.toNat) (more : Nat) :
    next (some ⟨bits, least, most, more + 1⟩) (UInt8.ofNat (low + 0x80)) =
      ([], some ⟨bits * 0x40 + low, 0x80, 0xBF, more⟩) := by
  refine (if_pos (within_of_le small above below)).trans ?_
  show ([], some (Partial.mk (bits * 0x40 + (UInt8.ofNat (low + 0x80)).toNat % 0x40) _ _ more)) = _
  rw [lowBits_ofNat small]

/-- The lower bound of a second byte, which some first bytes raise. -/
theorem least_le {narrow : Prop} [Decidable narrow] {raised : UInt8} {value : Nat}
    (held : narrow → raised.toNat ≤ value + 0x80) :
    (if narrow then raised else 0x80 : UInt8).toNat ≤ value + 0x80 := by
  by_cases isNarrow : narrow
  · rw [if_pos isNarrow]
    exact held isNarrow
  · rw [if_neg isNarrow]
    exact Nat.le_add_left 0x80 value

/-- The upper bound of a second byte, which some first bytes lower. -/
theorem le_most {narrow : Prop} [Decidable narrow] {lowered : UInt8} {value : Nat}
    (small : value < 0x40) (held : narrow → value + 0x80 ≤ lowered.toNat) :
    value + 0x80 ≤ (if narrow then lowered else 0xBF : UInt8).toNat := by
  by_cases isNarrow : narrow
  · rw [if_pos isNarrow]
    exact held isNarrow
  · rw [if_neg isNarrow]
    exact Nat.add_le_add_right (Nat.le_of_lt_succ small) 0x80

/-! ### Characters -/

/-- The sequences that stand for the code of a character. The conditions on the second byte leave out
the sequences of a shorter form, of a surrogate and beyond the last character. -/
inductive Sequence : Nat → Bytes → Prop
  | one {code : Nat} (short : code < 0x80) : Sequence code [UInt8.ofNat code]
  | two {high low : Nat} (long : 2 ≤ high) (below : high < 0x20) (small : low < 0x40) :
      Sequence (high * 0x40 + low) [UInt8.ofNat (high + 0xC0), UInt8.ofNat (low + 0x80)]
  | three {high middle low : Nat} (below : high < 0x10) (smallMiddle : middle < 0x40)
      (small : low < 0x40) (long : high = 0 → 0x20 ≤ middle)
      (noSurrogate : high = 0xD → middle < 0x20) :
      Sequence ((high * 0x40 + middle) * 0x40 + low)
        [UInt8.ofNat (high + 0xE0), UInt8.ofNat (middle + 0x80), UInt8.ofNat (low + 0x80)]
  | four {high middle later low : Nat} (below : high < 5) (smallMiddle : middle < 0x40)
      (smallLater : later < 0x40) (small : low < 0x40) (long : high = 0 → 0x10 ≤ middle)
      (reached : high = 4 → middle < 0x10) :
      Sequence (((high * 0x40 + middle) * 0x40 + later) * 0x40 + low)
        [UInt8.ofNat (high + 0xF0), UInt8.ofNat (middle + 0x80), UInt8.ofNat (later + 0x80),
          UInt8.ofNat (low + 0x80)]

theorem Sequence.of_eq {code other : Nat} {bytes : Bytes} (sequence : Sequence code bytes)
    (same : code = other) : Sequence other bytes :=
  same ▸ sequence

theorem sequence_encodeChar (char : Char) :
    Sequence char.toNat (String.utf8EncodeChar char) := by
  have valid : char.toNat < 0xD800 ∨ 0xDFFF < char.toNat ∧ char.toNat < 0x110000 := char.valid
  have code : char.val.toNat = char.toNat := rfl
  unfold String.utf8EncodeChar
  simp only [code]
  by_cases one : char.toNat ≤ 0x7F
  · rw [if_pos one]
    exact .one (Nat.lt_succ_of_le one)
  · by_cases two : char.toNat ≤ 0x7FF
    · rw [if_neg one, if_pos two]
      exact (Sequence.two (by omega) (by omega) (by omega)).of_eq (by omega)
    · by_cases three : char.toNat ≤ 0xFFFF
      · rw [if_neg one, if_neg two, if_pos three]
        exact (Sequence.three (by omega) (by omega) (by omega) (by omega) (by omega)).of_eq (by omega)
      · rw [if_neg one, if_neg two, if_neg three]
        exact (Sequence.four (by omega) (by omega) (by omega) (by omega) (by omega) (by omega)).of_eq
          (by omega)

/-- **A sequence is read as the character that it stands for.** -/
theorem Sequence.run_eq {code : Nat} {bytes : Bytes} (sequence : Sequence code bytes) :
    run none bytes = ([some (Char.ofNat code)], none) := by
  have least : ∀ value, (0x80 : UInt8).toNat ≤ value + 0x80 := fun value =>
    Nat.le_add_left 0x80 value
  have most : ∀ {value}, value < 0x40 → value + 0x80 ≤ (0xBF : UInt8).toNat := fun small =>
    Nat.add_le_add_right (Nat.le_of_lt_succ small) 0x80
  cases sequence with
  | one short =>
    have value : (UInt8.ofNat code).toNat = code := by
      rw [UInt8.toNat_ofNat', Nat.mod_eq_of_lt (by omega)]
    have isShort : UInt8.ofNat code < 0x80 := by
      rw [UInt8.lt_iff_toNat_lt, value]
      exact short
    rw [run, run, next, first, if_pos isShort, value]
    rfl
  | @two high low long below small =>
    rw [run, next_start (start?_two high long below), run, next_last small (least low) (most small),
      run]
    rfl
  | @three high middle low below smallMiddle small long noSurrogate =>
    have leastMiddle : (if high = 0 then 0xA0 else 0x80 : UInt8).toNat ≤ middle + 0x80 :=
      least_le fun isLeast => Nat.add_le_add_right (long isLeast) 0x80
    have mostMiddle : middle + 0x80 ≤ (if high = 0xD then 0x9F else 0xBF : UInt8).toNat :=
      le_most smallMiddle fun isSurrogate =>
        Nat.add_le_add_right (Nat.le_of_lt_succ (noSurrogate isSurrogate)) 0x80
    rw [run, next_start (start?_three high below), run, next_more smallMiddle leastMiddle mostMiddle,
      run, next_last small (least low) (most small), run]
    rfl
  | @four high middle later low below smallMiddle smallLater small long reached =>
    have leastMiddle : (if high = 0 then 0x90 else 0x80 : UInt8).toNat ≤ middle + 0x80 :=
      least_le fun isLeast => Nat.add_le_add_right (long isLeast) 0x80
    have mostMiddle : middle + 0x80 ≤ (if high = 4 then 0x8F else 0xBF : UInt8).toNat :=
      le_most smallMiddle fun isLast =>
        Nat.add_le_add_right (Nat.le_of_lt_succ (reached isLast)) 0x80
    rw [run, next_start (start?_four high below), run, next_more smallMiddle leastMiddle mostMiddle,
      run, next_more smallLater (least later) (most smallLater), run,
      next_last small (least low) (most small), run]
    rfl

theorem run_encodeChar (char : Char) :
    run none (String.utf8EncodeChar char) = ([some char], none) := by
  rw [(sequence_encodeChar char).run_eq, Char.ofNat_toNat]

/-- The bytes of a short character are its code, and those of any other one lie beyond the short
ones. -/
theorem of_mem_encodeChar {char : Char} {byte : UInt8}
    (member : byte ∈ String.utf8EncodeChar char) :
    byte = UInt8.ofNat char.toNat ∧ char.toNat < 0x80 ∨ 0x80 ≤ byte.toNat := by
  have beyond : ∀ {low offset : Nat}, low + offset < 0x100 → 0x80 ≤ offset →
      0x80 ≤ (UInt8.ofNat (low + offset)).toNat := by
    intro low offset small large
    rw [toNat_ofNat_add small]
    exact Nat.le_trans large (Nat.le_add_left offset low)
  have sequence := sequence_encodeChar char
  generalize char.toNat = code, String.utf8EncodeChar char = bytes at sequence member
  cases sequence with
  | one short => exact Or.inl ⟨List.mem_singleton.mp member, short⟩
  | two long below small =>
    simp only [List.mem_cons, List.not_mem_nil, or_false] at member
    rcases member with rfl | rfl <;> exact Or.inr (beyond (by omega) (by omega))
  | three below smallMiddle small long noSurrogate =>
    simp only [List.mem_cons, List.not_mem_nil, or_false] at member
    rcases member with rfl | rfl | rfl <;> exact Or.inr (beyond (by omega) (by omega))
  | four below smallMiddle smallLater small long reached =>
    simp only [List.mem_cons, List.not_mem_nil, or_false] at member
    rcases member with rfl | rfl | rfl | rfl <;> exact Or.inr (beyond (by omega) (by omega))

/-! ### Texts -/

/-- Each character is a piece of its own. -/
theorem scan_encode (chars : List Char) :
    scan (chars.flatMap String.utf8EncodeChar) = chars.map some := by
  induction chars with
  | nil => rfl
  | cons char rest ih =>
    have parts := scanFrom_append none (String.utf8EncodeChar char)
      (rest.flatMap String.utf8EncodeChar)
    rw [run_encodeChar] at parts
    rw [scan, List.flatMap_cons, parts, ← scan, ih]
    rfl

/-- **The bytes of a text are read back as that text.** -/
theorem decode?_encode (chars : List Char) :
    decode? (chars.flatMap String.utf8EncodeChar) = some (String.ofList chars) := by
  have wellFormed : (chars.map some).all Option.isSome = true := by simp
  rw [decode?, scan_encode, if_pos wellFormed, List.filterMap_map]
  simp

/-- They are read back also where ill-formed pieces would be replaced. -/
theorem lossy_encode (text : String) : lossy (encode text) = text := by
  rw [lossy, encode, scan_encode, List.map_map]
  simp [Function.comp_def]

theorem encode_inj {left right : String} (same : encode left = encode right) : left = right := by
  rw [← lossy_encode left, same, lossy_encode]

end MediaTrail.Text.Utf8
