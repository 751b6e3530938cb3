/-
**What lowering makes of letters.** A text that differs from another in the case of Latin letters only
has the same lower case, also where a sigma looks for a cased letter beside it. What was lowered once
is not changed by lowering it again, wherever it then stands, and blanks, dots and slashes come from
themselves alone.

* `lower_congr`: letters of either case are lowered alike;
* `lower_of_isLow`, `isLow_of_mem_lower`: lowering leaves alone what it makes;
* `eq_of_isMark_of_mem_lowerBetween`: a blank, a dot or a slash in lower case was there before.
-/

import MediaTrail.Proofs.ColumnTexts

namespace MediaTrail.Text

/-! ### Letters of either case -/

/-- Texts that differ at most in the case of the letters from A to Z. -/
def SameLetters (text other : List Char) : Prop :=
  text.map Char.toLower = other.map Char.toLower

instance (text other : List Char) : Decidable (SameLetters text other) :=
  inferInstanceAs (Decidable (_ = _))

theorem SameLetters.dropWhile {text other : List Char} {drop : Char → Bool}
    (same : SameLetters text other)
    (alike : ∀ char char' : Char, char.toLower = char'.toLower → drop char = drop char') :
    SameLetters (text.dropWhile drop) (other.dropWhile drop) := by
  induction text generalizing other with
  | nil =>
    obtain rfl := List.map_eq_nil_iff.mp same.symm
    rfl
  | cons char rest ih =>
    obtain ⟨char', rest', rfl, here, later⟩ := List.map_eq_cons_iff.mp same.symm
    rw [List.dropWhile_cons, List.dropWhile_cons, alike _ _ here]
    split
    · exact ih later.symm
    · exact same

theorem SameLetters.reverse {text other : List Char} (same : SameLetters text other) :
    SameLetters text.reverse other.reverse := by
  rw [SameLetters, List.map_reverse, List.map_reverse, same]

theorem isAlpha_iff {char : Char} : char.isAlpha = true ↔
    (0x41 ≤ char.toNat ∧ char.toNat ≤ 0x5A) ∨ (0x61 ≤ char.toNat ∧ char.toNat ≤ 0x7A) := by
  have letters : char.isAlpha = (decide (char.val ≥ 'A'.val ∧ char.val ≤ 'Z'.val) ||
      (decide (char.val ≥ 'a'.val) && decide (char.val ≤ 'z'.val))) := rfl
  simp only [letters, Bool.or_eq_true, Bool.and_eq_true, decide_eq_true_eq, ge_iff_le,
    UInt32.le_iff_toNat_le]
  rfl

/-- The letters from A to Z are moved by the distance of the two cases. -/
theorem toNat_toLower (char : Char) : char.toLower.toNat =
    if 0x41 ≤ char.toNat ∧ char.toNat ≤ 0x5A then char.toNat + 0x20 else char.toNat := by
  have upper : (char.val ≥ 'A'.val ∧ char.val ≤ 'Z'.val) ↔
      (0x41 ≤ char.toNat ∧ char.toNat ≤ 0x5A) := by
    simp only [ge_iff_le, UInt32.le_iff_toNat_le]
    rfl
  unfold Char.toLower
  by_cases isUpper : char.val ≥ 'A'.val ∧ char.val ≤ 'Z'.val
  · have bounds := upper.mp isUpper
    rw [dif_pos isUpper, if_pos bounds]
    show (char.val + ('a'.val - 'A'.val)).toNat = _
    rw [UInt32.toNat_add]
    show (char.toNat + 0x20) % 2 ^ 32 = _
    exact Nat.mod_eq_of_lt (by omega)
  · rw [dif_neg isUpper, if_neg (mt upper.mpr isUpper)]

theorem isCased_of_isAlpha {char : Char} (letter : char.isAlpha = true) : isCased char = true := by
  rw [isCased, covers_iff]
  rcases isAlpha_iff.mp letter with upper | lower
  · exact ⟨⟨0x41, 0x5A⟩, by decide, upper⟩
  · exact ⟨⟨0x61, 0x7A⟩, by decide, lower⟩

theorem isCaseIgnorable_of_isAlpha {char : Char} (letter : char.isAlpha = true) :
    isCaseIgnorable char = false := by
  have beside : ignorableRanges.all (fun range => Nat.blt range.last 0x41 ||
      Nat.blt 0x5A range.first && Nat.blt range.last 0x61 || Nat.blt 0x7A range.first) = true := by
    decide +kernel
  rw [Bool.eq_false_iff]
  intro ignorable
  obtain ⟨range, member, inside⟩ := (covers_iff _ _).mp ignorable
  have apart := List.all_eq_true.mp beside range member
  simp only [Bool.or_eq_true, Bool.and_eq_true, Nat.blt_eq] at apart
  have letters := isAlpha_iff.mp letter
  omega

/-- Characters that differ in case at most are the same, or both are letters. -/
theorem eq_or_isAlpha_of_toLower_eq {char other : Char} (same : char.toLower = other.toLower) :
    char = other ∨ char.isAlpha = true ∧ other.isAlpha = true := by
  have codes := congrArg Char.toNat same
  rw [toNat_toLower, toNat_toLower] at codes
  rw [isAlpha_iff, isAlpha_iff]
  by_cases equal : char.toNat = other.toNat
  · exact .inl (Char.toNat_inj.mp equal)
  · refine .inr ?_
    split at codes <;> split at codes <;> omega

theorem isCased_congr {char other : Char} (same : char.toLower = other.toLower) :
    isCased char = isCased other := by
  rcases eq_or_isAlpha_of_toLower_eq same with rfl | ⟨letter, letter'⟩
  · rfl
  · rw [isCased_of_isAlpha letter, isCased_of_isAlpha letter']

theorem isCaseIgnorable_congr {char other : Char} (same : char.toLower = other.toLower) :
    isCaseIgnorable char = isCaseIgnorable other := by
  rcases eq_or_isAlpha_of_toLower_eq same with rfl | ⟨letter, letter'⟩
  · rfl
  · rw [isCaseIgnorable_of_isAlpha letter, isCaseIgnorable_of_isAlpha letter']

theorem meetsCased_congr {text other : List Char} (same : SameLetters text other) :
    meetsCased text = meetsCased other := by
  induction text generalizing other with
  | nil =>
    obtain rfl := List.map_eq_nil_iff.mp same.symm
    rfl
  | cons char rest ih =>
    obtain ⟨char', rest', rfl, here, later⟩ := List.map_eq_cons_iff.mp same.symm
    have passes := isCaseIgnorable_congr here
    unfold meetsCased at ih ⊢
    rw [List.dropWhile_cons, List.dropWhile_cons, passes]
    by_cases passed : isCaseIgnorable char = true
    · rw [if_pos passed, if_pos passed]
      exact ih later.symm
    · rw [if_neg passed, if_neg passed]
      exact (isCased_congr here).symm

theorem lowerBetween_congr {before before' after after' : List Char} {char char' : Char}
    (left : SameLetters before before') (here : char.toLower = char'.toLower)
    (right : SameLetters after after') :
    lowerBetween before char after = lowerBetween before' char' after' := by
  rcases eq_or_isAlpha_of_toLower_eq here with rfl | ⟨letter, letter'⟩
  · rw [lowerBetween, lowerBetween, endsWord, endsWord, meetsCased_congr left,
      meetsCased_congr right]
  · have single {char : Char} (letter : char.isAlpha = true) (before after : List Char) :
        lowerBetween before char after = [char.toLower] := by
      have letters := isAlpha_iff.mp letter
      have notDotted : char ≠ 'İ' := by rintro rfl; revert letters; decide
      have notSigma : char ≠ 'Σ' := by rintro rfl; revert letters; decide
      rw [lowerBetween, if_neg notDotted, if_neg notSigma, lowerChar_ascii char (by omega)]
    rw [single letter, single letter', here]

/-- **Letters of either case are lowered alike.** -/
theorem lower_congr {text other : List Char} (same : SameLetters text other) :
    lower text = lower other := by
  have general : ∀ (text other before before' : List Char), SameLetters before before' →
      SameLetters text other → lowerFrom before [] text = lowerFrom before' [] other := by
    intro text
    induction text with
    | nil =>
      intro other before before' left same
      obtain rfl := List.map_eq_nil_iff.mp same.symm
      rfl
    | cons char rest ih =>
      intro other before before' left same
      obtain ⟨char', rest', rfl, here, later⟩ := List.map_eq_cons_iff.mp same.symm
      have nextLeft : SameLetters (char :: before) (char' :: before') := by
        rw [SameLetters, List.map_cons, List.map_cons, here, left]
      rw [lowerFrom_cons, lowerFrom_cons, lowerBetween_congr left here.symm later.symm,
        ih rest' _ _ nextLeft later.symm]
  exact general text other [] [] rfl same

/-! ### What the table makes -/

namespace CaseRun

/-- The last partner of a run. -/
def highest (run : CaseRun) : Nat :=
  run.partner run.last

/-- Whether all code points that a run reaches are an even distance from its first one. -/
def isEven (run : CaseRun) : Bool :=
  run.step == 2 || run.first == run.last

/-- Whether no partner of a run is reached by another run: their ranges are apart, or the one has the
even code points of a range and the other the odd ones. -/
def misses (run other : CaseRun) : Bool :=
  Nat.blt run.highest other.first || Nat.blt other.last run.target ||
    run.isEven && other.isEven && Nat.beq ((run.target + other.first) % 2) 1

/-- Whether no partner of a run lies in a range. -/
def avoids (run : CaseRun) (range : CodeRange) : Bool :=
  Nat.blt range.last run.target || Nat.blt run.highest range.first

/-- The two letters that have no partner of their own. -/
def contextRanges : List CodeRange :=
  [⟨0x130, 0x130⟩, ⟨0x3A3, 0x3A3⟩]

/-- Whether the partners of a run are characters behind the capital letters of the first 128, and
neither blanks nor letters without a partner of their own. -/
def isSound (run : CaseRun) : Bool :=
  Nat.blt 0x5A run.target &&
    (Nat.blt run.highest 0xD800 || Nat.blt 0xDFFF run.target && Nat.blt run.highest 0x110000) &&
    (contextRanges ++ blankRanges).all run.avoids

theorem reaches_iff {run : CaseRun} {code : Nat} : run.reaches code = true ↔
    (run.first ≤ code ∧ code ≤ run.last) ∧ (code - run.first) % run.step = 0 := by
  simp only [reaches, Bool.and_eq_true, decide_eq_true_eq, beq_iff_eq]

theorem partner_le_highest {run : CaseRun} {code : Nat} (reached : run.reaches code = true) :
    run.target ≤ run.partner code ∧ run.partner code ≤ run.highest := by
  have inside := (reaches_iff.mp reached).1
  rw [highest, partner, partner]
  omega

theorem even_of_reaches {run : CaseRun} (even : run.isEven = true) {code : Nat}
    (reached : run.reaches code = true) : (code - run.first) % 2 = 0 := by
  obtain ⟨inside, steps⟩ := reaches_iff.mp reached
  rw [isEven, Bool.or_eq_true, beq_iff_eq, beq_iff_eq] at even
  rcases even with two | single
  · rwa [two] at steps
  · omega

theorem not_reaches_of_misses {run other : CaseRun} (apart : run.misses other = true) {code : Nat}
    (reached : run.reaches code = true) : other.reaches (run.partner code) = false := by
  rw [Bool.eq_false_iff]
  intro again
  have bounds := partner_le_highest reached
  have inside := (reaches_iff.mp again).1
  rw [misses, Bool.or_eq_true, Bool.or_eq_true, Nat.blt_eq, Nat.blt_eq, Bool.and_eq_true,
    Bool.and_eq_true, Nat.beq_eq] at apart
  rcases apart with (above | below) | ⟨⟨even, otherEven⟩, odd⟩
  · omega
  · omega
  · have left := even_of_reaches even reached
    have right := even_of_reaches otherEven again
    rw [partner] at right inside
    omega

end CaseRun

theorem misses_of_mem {run other : CaseRun} (member : run ∈ lowerRuns) (member' : other ∈ lowerRuns) :
    run.misses other = true := by
  have all : lowerRuns.all (fun run => lowerRuns.all run.misses) = true := by decide +kernel
  exact List.all_eq_true.mp (List.all_eq_true.mp all run member) other member'

theorem isSound_of_mem {run : CaseRun} (member : run ∈ lowerRuns) : run.isSound = true := by
  have all : lowerRuns.all CaseRun.isSound = true := by decide +kernel
  exact List.all_eq_true.mp all run member

/-- A character beyond the first 128 stays, or becomes the partner that a run gives it. -/
theorem lowerChar_eq_or_partner {char : Char} (beyond : ¬ char.toNat < 0x80) :
    lowerChar char = char ∨ ∃ run ∈ lowerRuns, run.reaches char.toNat = true ∧
      (lowerChar char).toNat = run.partner char.toNat := by
  rw [lowerChar, if_neg beyond]
  cases found : lowerRuns.find? fun run => run.reaches char.toNat with
  | none => exact .inl rfl
  | some run =>
    have member := List.mem_of_find?_eq_some found
    have reached : run.reaches char.toNat = true := by simpa using List.find?_some found
    refine .inr ⟨run, member, reached, ?_⟩
    have bounds := CaseRun.partner_le_highest reached
    have sound := isSound_of_mem member
    simp only [CaseRun.isSound, Bool.and_eq_true, Bool.or_eq_true, Nat.blt_eq] at sound
    have valid : (run.partner char.toNat).isValidChar := by
      rw [Nat.isValidChar]
      omega
    show (Char.ofNat (run.partner char.toNat)).toNat = run.partner char.toNat
    rw [Char.ofNat, dif_pos valid]
    rfl

/-- The partner that a run gives lies behind the capital letters of the first 128, and outside the
ranges that its run avoids. -/
theorem of_partner {run : CaseRun} (member : run ∈ lowerRuns) {code : Nat}
    (reached : run.reaches code = true) : 0x5A < run.partner code ∧
      ∀ range ∈ CaseRun.contextRanges ++ blankRanges, range.holds (run.partner code) = false := by
  have bounds := CaseRun.partner_le_highest reached
  have sound := isSound_of_mem member
  rw [CaseRun.isSound, Bool.and_eq_true, Bool.and_eq_true, Nat.blt_eq, List.all_eq_true] at sound
  refine ⟨by omega, fun range inRanges => ?_⟩
  have avoided := sound.2 range inRanges
  rw [CaseRun.avoids, Bool.or_eq_true, Nat.blt_eq, Nat.blt_eq] at avoided
  rw [CodeRange.holds, Bool.and_eq_false_iff, decide_eq_false_iff_not, decide_eq_false_iff_not]
  omega

/-! ### Lowered once and for all -/

/-- Whether lowering leaves a character as it is, wherever it stands. -/
def IsLow (char : Char) : Prop :=
  char ≠ 'İ' ∧ char ≠ 'Σ' ∧ lowerChar char = char

theorem lowerBetween_of_isLow {char : Char} (low : IsLow char) (before after : List Char) :
    lowerBetween before char after = [char] := by
  rw [lowerBetween, if_neg low.1, if_neg low.2.1, low.2.2]

/-- Lowered characters stay as they are. -/
theorem lower_of_isLow {text : List Char} (low : ∀ char ∈ text, IsLow char) : lower text = text := by
  have general : ∀ (text before : List Char), (∀ char ∈ text, IsLow char) →
      lowerFrom before [] text = text := by
    intro text
    induction text with
    | nil => intros; rfl
    | cons char rest ih =>
      intro before low
      rw [lowerFrom_cons, lowerBetween_of_isLow (low char List.mem_cons_self),
        ih _ fun other member => low other (List.mem_cons_of_mem _ member)]
      rfl
  exact general text [] low

/-- A character that has no partner, and is none of the capital letters of the first 128. -/
theorem lowerChar_of_not_reaches {char : Char} (notCapital : 0x5A < char.toNat)
    (unreached : ∀ run ∈ lowerRuns, run.reaches char.toNat = false) : lowerChar char = char := by
  by_cases ascii : char.toNat < 0x80
  · rw [lowerChar_ascii char ascii, ← Char.toNat_inj, toNat_toLower, if_neg (by omega)]
  · have noRun : (lowerRuns.find? fun run => run.reaches char.toNat) = none :=
      List.find?_eq_none.mpr fun run member => by simp [unreached run member]
    rw [lowerChar, if_neg ascii, noRun]

theorem isLow_lowerChar {char : Char} (notDotted : char ≠ 'İ') (notSigma : char ≠ 'Σ') :
    IsLow (lowerChar char) := by
  by_cases ascii : char.toNat < 0x80
  · have code := toNat_toLower char
    rw [lowerChar_ascii char ascii]
    have below : char.toLower.toNat < 0x80 := by
      rw [code]
      split <;> omega
    refine ⟨?_, ?_, ?_⟩
    · intro dotted
      rw [dotted] at below
      exact absurd below (by decide)
    · intro sigma
      rw [sigma] at below
      exact absurd below (by decide)
    · rw [lowerChar_ascii _ below, ← Char.toNat_inj, toNat_toLower, if_neg]
      rw [code]
      split <;> omega
  · rcases lowerChar_eq_or_partner ascii with same | ⟨run, member, reached, code⟩
    · exact ⟨same.symm ▸ notDotted, same.symm ▸ notSigma, by rw [same, same]⟩
    · obtain ⟨notCapital, avoided⟩ := of_partner member reached
      rw [← code] at notCapital avoided
      refine ⟨?_, ?_, lowerChar_of_not_reaches notCapital fun other member' => ?_⟩
      · intro dotted
        exact absurd (avoided ⟨0x130, 0x130⟩ (by decide)) (by rw [dotted]; decide)
      · intro sigma
        exact absurd (avoided ⟨0x3A3, 0x3A3⟩ (by decide)) (by rw [sigma]; decide)
      · rw [code]
        exact CaseRun.not_reaches_of_misses (misses_of_mem member member') reached

theorem isLow_of_mem_lowerBetween {before after : List Char} {char lowered : Char}
    (member : lowered ∈ lowerBetween before char after) : IsLow lowered := by
  have outside (low : Char) (unreached : lowerRuns.all (fun run => !run.reaches low.toNat) = true)
      (apart : low ≠ 'İ' ∧ low ≠ 'Σ' ∧ 0x5A < low.toNat) : IsLow low := by
    refine ⟨apart.1, apart.2.1, lowerChar_of_not_reaches apart.2.2 fun run inRuns => ?_⟩
    simpa using List.all_eq_true.mp unreached run inRuns
  rw [lowerBetween] at member
  split at member
  · rw [List.mem_cons, List.mem_singleton] at member
    rcases member with rfl | rfl
    · exact outside _ (by decide +kernel) (by decide)
    · exact outside _ (by decide +kernel) (by decide)
  · split at member
    · rw [List.mem_singleton] at member
      subst member
      split
      · exact outside _ (by decide +kernel) (by decide)
      · exact outside _ (by decide +kernel) (by decide)
    · rename_i notDotted notSigma
      rw [List.mem_singleton.mp member]
      exact isLow_lowerChar notDotted notSigma

theorem isLow_of_mem_lower {text : List Char} {lowered : Char} (member : lowered ∈ lower text) :
    IsLow lowered := by
  have general : ∀ (text before : List Char), lowered ∈ lowerFrom before [] text →
      IsLow lowered := by
    intro text
    induction text with
    | nil =>
      intro before member
      cases member
    | cons char rest ih =>
      intro before member
      rw [lowerFrom_cons, List.mem_append] at member
      rcases member with here | later
      · exact isLow_of_mem_lowerBetween here
      · exact ih _ later
  exact general text [] member

/-! ### What lowering does not make -/

/-- The characters that take a raw extension or a path apart: blanks, dots and slashes. -/
def IsMark (char : Char) : Prop :=
  isBlank char = true ∨ char = '.' ∨ char = '/'

instance (char : Char) : Decidable (IsMark char) :=
  inferInstanceAs (Decidable (_ ∨ _))

theorem not_isMark_of_isAlpha {char : Char} (letter : char.isAlpha = true) : ¬ IsMark char := by
  have letters := isAlpha_iff.mp letter
  rintro (blank | rfl | rfl)
  · exact absurd blank (by rw [isBlank_of_visible (by omega) (by omega)]; decide)
  · exact absurd letters (by decide)
  · exact absurd letters (by decide)

/-- Among the first 128 characters only letters change, and only to letters. -/
theorem eq_of_isMark_toLower {char : Char} (mark : IsMark char.toLower) : char.toLower = char := by
  by_cases upper : 0x41 ≤ char.toNat ∧ char.toNat ≤ 0x5A
  · refine absurd mark (not_isMark_of_isAlpha (isAlpha_iff.mpr (.inr ?_)))
    rw [toNat_toLower, if_pos upper]
    omega
  · rw [← Char.toNat_inj, toNat_toLower, if_neg upper]

theorem eq_of_isMark_lowerChar {char : Char} (mark : IsMark (lowerChar char)) :
    lowerChar char = char := by
  by_cases ascii : char.toNat < 0x80
  · rw [lowerChar_ascii char ascii] at mark ⊢
    exact eq_of_isMark_toLower mark
  · rcases lowerChar_eq_or_partner ascii with same | ⟨run, member, reached, code⟩
    · exact same
    · obtain ⟨notCapital, avoided⟩ := of_partner member reached
      rw [← code] at notCapital avoided
      rcases mark with blank | dot | slash
      · obtain ⟨range, inRanges, held⟩ := List.any_eq_true.mp blank
        exact absurd held (by rw [avoided range (List.mem_append_right _ inRanges)]; decide)
      · exact absurd notCapital (by rw [dot]; decide)
      · exact absurd notCapital (by rw [slash]; decide)

/-- **A blank, a dot or a slash in lower case was there before.** -/
theorem eq_of_isMark_of_mem_lowerBetween {before after : List Char} {char lowered : Char}
    (member : lowered ∈ lowerBetween before char after) (mark : IsMark lowered) :
    lowered = char := by
  rw [lowerBetween] at member
  split at member
  · rw [List.mem_cons, List.mem_singleton] at member
    rcases member with rfl | rfl <;> exact absurd mark (by decide)
  · split at member
    · rw [List.mem_singleton] at member
      subst member
      split at mark <;> exact absurd mark (by decide)
    · rw [List.mem_singleton.mp member] at mark ⊢
      exact eq_of_isMark_lowerChar mark

/-- Letters are no marks, so the case of a text does not move them. -/
theorem isMark_congr {char other : Char} (same : char.toLower = other.toLower) :
    isBlank char = isBlank other ∧ (char = '.' ↔ other = '.') ∧ (char = '/' ↔ other = '/') := by
  rcases eq_or_isAlpha_of_toLower_eq same with rfl | ⟨letter, letter'⟩
  · exact ⟨rfl, Iff.rfl, Iff.rfl⟩
  · have plain := not_isMark_of_isAlpha letter
    have plain' := not_isMark_of_isAlpha letter'
    simp only [IsMark, not_or, Bool.not_eq_true] at plain plain'
    rw [plain.1, plain'.1]
    exact ⟨rfl, iff_of_false plain.2.1 plain'.2.1, iff_of_false plain.2.2 plain'.2.2⟩

theorem SameLetters.trim {text other : List Char} (same : SameLetters text other) :
    SameLetters (trim text) (trim other) := by
  have alike (char char' : Char) (same : char.toLower = char'.toLower) :
      isBlank char = isBlank char' := (isMark_congr same).1
  exact ((same.dropWhile alike).reverse.dropWhile alike).reverse

end MediaTrail.Text
