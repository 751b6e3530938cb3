/-
**The forms of patterns.** Which texts are patterns, and of what they consist, told apart from every
reader: a pattern grows from left to right, by an item or by a bar between two alternatives, and a
group holds a pattern of its own.

* `Pattern.IsText`: the texts of patterns;
* `Pattern.read?_of_isForm`: they are read as these patterns, so that a text is the form of one at most;
* `IsText.escape`: an escaped text is the form of its characters as they are, whatever they are;
* `Engine.IsFaithful`: an engine that finds a pattern where it matches, as the reading one does.
-/

import MediaTrail.LinePatterns

namespace MediaTrail

open Text

namespace Pattern

/-! ### The grammar -/

/-- The texts of sets between their brackets: single characters, ranges and all blanks. -/
inductive IsSet : List CodeRange → List Char → Prop
  | none : IsSet [] []
  | char {ranges : List CodeRange} {text : List Char} {char : Char} (before : IsSet ranges text)
      (plain : char ∉ setMarks) : IsSet (ranges ++ [rangeOf char]) (text ++ [char])
  | range {ranges : List CodeRange} {text : List Char} {first last : Char} (before : IsSet ranges text)
      (firstPlain : first ∉ setMarks) (lastPlain : last ∉ setMarks) (ordered : first ≤ last) :
      IsSet (ranges ++ [⟨first.toNat, last.toNat⟩]) (text ++ [first, '-', last])
  | blank {ranges : List CodeRange} {text : List Char} (before : IsSet ranges text) :
      IsSet (ranges ++ blankRanges) (text ++ ['\\', 's'])

/-- **The texts of patterns,** from left to right. -/
inductive IsText : Frame → List Char → Prop
  | nothing : IsText {} []
  | char {frame : Frame} {text : List Char} {char : Char} (before : IsText frame text)
      (plain : char ∉ marks) : IsText (frame.push (literal char)) (text ++ [char])
  | escaped {frame : Frame} {text : List Char} {char : Char} (before : IsText frame text)
      (isMark : char ∈ marks) : IsText (frame.push (literal char)) (text ++ ['\\', char])
  | blank {frame : Frame} {text : List Char} (before : IsText frame text) :
      IsText (frame.push blank) (text ++ ['\\', 's'])
  | set {frame : Frame} {text setText : List Char} {ranges : List CodeRange}
      (before : IsText frame text) (isSet : IsSet ranges setText) (nonempty : setText ≠ []) :
      IsText (frame.push (one ⟨false, ranges⟩)) (text ++ ('[' :: (setText ++ [']'])))
  | otherSet {frame : Frame} {text setText : List Char} {ranges : List CodeRange}
      (before : IsText frame text) (isSet : IsSet ranges setText) (nonempty : setText ≠ []) :
      IsText (frame.push (one ⟨true, ranges⟩)) (text ++ ('[' :: '^' :: (setText ++ [']'])))
  | atEnd {frame : Frame} {text : List Char} (before : IsText frame text) :
      IsText (frame.push atEnd) (text ++ ['$'])
  | maybe {branches : List (List Pattern)} {items : List Pattern} {item : Pattern} {text : List Char}
      (before : IsText ⟨branches, item :: items⟩ text) (settled : item.isOpen = false) :
      IsText ⟨branches, maybe item :: items⟩ (text ++ ['?'])
  | star {branches : List (List Pattern)} {items : List Pattern} {set : CharSet} {text : List Char}
      (before : IsText ⟨branches, one set :: items⟩ text) :
      IsText ⟨branches, many set :: items⟩ (text ++ ['*'])
  | plus {branches : List (List Pattern)} {items : List Pattern} {set : CharSet} {text : List Char}
      (before : IsText ⟨branches, one set :: items⟩ text) :
      IsText ⟨branches, many set :: one set :: items⟩ (text ++ ['+'])
  | group {frame inner : Frame} {text innerText : List Char} (before : IsText frame text)
      (inside : IsText inner innerText) :
      IsText (frame.push inner.pattern) (text ++ ('(' :: '?' :: ':' :: (innerText ++ [')'])))
  | keptGroup {frame inner : Frame} {text innerText : List Char} (before : IsText frame text)
      (inside : IsText inner innerText) :
      IsText (frame.push (Pattern.group inner.pattern)) (text ++ ('(' :: (innerText ++ [')'])))
  | bar {frame : Frame} {text : List Char} (before : IsText frame text) :
      IsText frame.next (text ++ ['|'])

/-- A text is the form of a pattern. -/
def IsForm (pattern : Pattern) (text : List Char) : Prop :=
  ∃ frame : Frame, IsText frame text ∧ frame.pattern = pattern

/-! ### Reading -/

section

variable {frame : Frame} {outer : List Around}

theorem readFrom_step {reading next : Reading} {char : Char} (goes : step reading char = some next)
    (rest : List Char) : readFrom reading (char :: rest) = readFrom next rest := by
  rw [readFrom, goes]

/-- A character that stands for itself in a set. -/
theorem step_set_plain {char : Char} (plain : char ∉ setMarks) (negated : Bool)
    (ranges : List CodeRange) (last? : Option Char) :
    step ⟨.set negated ranges last?, frame, outer⟩ char =
      some ⟨.set negated (withLast ranges last?) (some char), frame, outer⟩ := by
  have noMark : ¬ setMarks.contains char = true := fun isMark => plain (List.contains_iff_mem.mp isMark)
  show setStep frame outer negated ranges last? char = _
  unfold setStep
  split
  · exact absurd (by decide) plain
  · exact absurd (by decide) plain
  · exact absurd (by decide) plain
  · exact if_neg noMark

/-- The range behind a hyphen. -/
theorem step_setRange {first last : Char} (plain : last ∉ setMarks) (ordered : first ≤ last)
    (negated : Bool) (ranges : List CodeRange) :
    step ⟨.setRange negated ranges first, frame, outer⟩ last =
      some ⟨.set negated (ranges ++ [⟨first.toNat, last.toNat⟩]) none, frame, outer⟩ := by
  refine if_neg ?_
  rintro (isMark | less)
  · exact plain (List.contains_iff_mem.mp isMark)
  · exact absurd less (Char.not_lt.mpr ordered)

/-- **The inside of a set is read as its ranges,** the last of which may be that of a character that
could still be the first of a range. -/
theorem readFrom_of_isSet {ranges : List CodeRange} {text : List Char} (isSet : IsSet ranges text)
    (negated : Bool) : ∃ before last?, withLast before last? = ranges ∧ ∀ rest,
      readFrom ⟨.set negated [] none, frame, outer⟩ (text ++ rest) =
        readFrom ⟨.set negated before last?, frame, outer⟩ rest := by
  induction isSet with
  | none => exact ⟨[], none, rfl, fun _ => rfl⟩
  | char _ plain ih =>
    obtain ⟨before, last?, rfl, reads⟩ := ih
    refine ⟨withLast before last?, some _, rfl, fun rest => ?_⟩
    rw [List.append_assoc, reads]
    exact readFrom_step (step_set_plain plain negated before last?) rest
  | @range _ text first last _ firstPlain lastPlain ordered ih =>
    obtain ⟨before, last?, rfl, reads⟩ := ih
    refine ⟨withLast before last? ++ [⟨first.toNat, last.toNat⟩], none, List.append_nil _,
      fun rest => ?_⟩
    rw [List.append_assoc, reads]
    show readFrom _ (first :: '-' :: last :: rest) = _
    rw [readFrom_step (step_set_plain firstPlain negated before last?), readFrom_step rfl,
      readFrom_step (step_setRange lastPlain ordered negated _)]
  | blank _ ih =>
    obtain ⟨before, last?, rfl, reads⟩ := ih
    refine ⟨withLast before last? ++ blankRanges, none, List.append_nil _, fun rest => ?_⟩
    rw [List.append_assoc, reads]
    rfl

/-- A set has as many ranges as it needs, and its first character negates nothing. -/
theorem IsSet.shown {ranges : List CodeRange} {text : List Char} (isSet : IsSet ranges text)
    (nonempty : text ≠ []) : ranges ≠ [] ∧ ∃ first more, text = first :: more ∧ first ≠ '^' := by
  have onward : ∀ {ranges : List CodeRange} {text more : List Char} {first : Char},
      IsSet ranges text → first ≠ '^' →
      (text ≠ [] → ∃ first more, text = first :: more ∧ first ≠ '^') →
      ∃ start rest, text ++ first :: more = start :: rest ∧ start ≠ '^' := by
    intro ranges text more first _ noMark before
    cases text with
    | nil => exact ⟨first, more, rfl, noMark⟩
    | cons start rest =>
      obtain ⟨_, _, same, noMark⟩ := before (List.cons_ne_nil _ _)
      obtain ⟨rfl, rfl⟩ := List.cons.inj same
      exact ⟨start, rest ++ first :: more, rfl, noMark⟩
  have unmarked : ∀ {char : Char}, char ∉ setMarks → char ≠ '^' := by
    rintro char plain rfl
    exact plain (by decide)
  induction isSet with
  | none => exact absurd rfl nonempty
  | char before plain ih =>
    exact ⟨by simp, onward before (unmarked plain) fun nonempty => (ih nonempty).2⟩
  | range before firstPlain _ _ ih =>
    exact ⟨by simp, onward before (unmarked firstPlain) fun nonempty => (ih nonempty).2⟩
  | blank before ih =>
    exact ⟨by simp [blankRanges], onward before (by decide) fun nonempty => (ih nonempty).2⟩

/-- The bracket that closes a set. -/
theorem readFrom_setClose {ranges : List CodeRange} (nonempty : ranges ≠ []) {before : List CodeRange}
    {last? : Option Char} (same : withLast before last? = ranges) (negated : Bool) (rest : List Char) :
    readFrom ⟨.set negated before last?, frame, outer⟩ (']' :: rest) =
      readFrom ⟨.plain, frame.push (one ⟨negated, ranges⟩), outer⟩ rest := by
  subst same
  refine readFrom_step ?_ rest
  exact if_neg nonempty

/-- A character that stands for itself. -/
theorem step_plain {char : Char} (plain : char ∉ marks) :
    step ⟨.plain, frame, outer⟩ char = some ⟨.plain, frame.push (literal char), outer⟩ := by
  have noMark : ¬ marks.contains char = true := fun isMark => plain (List.contains_iff_mem.mp isMark)
  show plainStep frame outer char = _
  unfold plainStep
  split
  case h_10 => exact if_neg noMark
  all_goals exact absurd (by decide) plain

theorem step_escaped {char : Char} (isMark : char ∈ marks) :
    step ⟨.escaped, frame, outer⟩ char = some ⟨.plain, frame.push (literal char), outer⟩ :=
  if_pos (List.contains_iff_mem.mpr isMark)

/-- A set that is not negated starts with its first character. -/
theorem readFrom_setStart {char : Char} (noMark : char ≠ '^') (rest : List Char) :
    readFrom ⟨.setStart, frame, outer⟩ (char :: rest) =
      readFrom ⟨.set false [] none, frame, outer⟩ (char :: rest) := by
  have same : step ⟨.setStart, frame, outer⟩ char = step ⟨.set false [] none, frame, outer⟩ char :=
    if_neg noMark
  rw [readFrom, readFrom, same]

/-- A text that is read does not start with a question mark, which would have nothing to belong to. -/
theorem head?_ne_of_reads {text : List Char} {pattern : Pattern}
    (reads : readFrom ⟨.plain, {}, []⟩ text = some pattern) : text.head? ≠ some '?' := by
  cases text with
  | nil => exact (Option.some_ne_none _).symm
  | cons char rest =>
    intro isMark
    obtain rfl := Option.some.inj isMark
    cases reads

/-- A parenthesis keeps what is inside unless a question mark stands there. -/
theorem readFrom_opened {text : List Char} (noMark : text.head? ≠ some '?') :
    readFrom ⟨.opened, frame, outer⟩ text = readFrom ⟨.plain, {}, ⟨frame, true⟩ :: outer⟩ text := by
  cases text with
  | nil => rfl
  | cons char rest =>
    have same : step ⟨.opened, frame, outer⟩ char =
        step ⟨.plain, {}, ⟨frame, true⟩ :: outer⟩ char :=
      if_neg fun isMark => noMark (congrArg some isMark)
    rw [readFrom, readFrom, same]

/-- **A pattern is read as what it is the form of,** wherever it stands. This is by induction on the
text from its end; what stands around a group waits outside while the group is read. -/
theorem readFrom_of_isText {text : List Char} (isText : IsText frame text) (outer : List Around)
    (rest : List Char) : readFrom ⟨.plain, {}, outer⟩ (text ++ rest) =
      readFrom ⟨.plain, frame, outer⟩ rest := by
  induction isText generalizing outer rest with
  | nothing => rfl
  | char _ plain ih =>
    rw [List.append_assoc, ih]
    exact readFrom_step (step_plain plain) rest
  | @escaped _ _ char _ isMark ih =>
    rw [List.append_assoc, ih]
    show readFrom _ ('\\' :: char :: rest) = _
    rw [readFrom_step rfl, readFrom_step (step_escaped isMark)]
  | blank _ ih =>
    rw [List.append_assoc, ih]
    rfl
  | @set _ text setText _ _ isSet nonempty ih =>
    obtain ⟨someRange, first, more, rfl, noMark⟩ := isSet.shown nonempty
    obtain ⟨before, last?, same, reads⟩ := readFrom_of_isSet isSet false
    rw [List.append_assoc, ih]
    show readFrom _ ('[' :: ((first :: more) ++ [']'] ++ rest)) = _
    rw [readFrom_step rfl, List.append_assoc, List.cons_append, readFrom_setStart noMark,
      ← List.cons_append, reads]
    exact readFrom_setClose someRange same false rest
  | @otherSet _ text setText _ _ isSet nonempty ih =>
    obtain ⟨before, last?, same, reads⟩ := readFrom_of_isSet isSet true
    rw [List.append_assoc, ih]
    show readFrom _ ('[' :: '^' :: (setText ++ [']'] ++ rest)) = _
    rw [readFrom_step rfl, readFrom_step rfl, List.append_assoc, reads]
    exact readFrom_setClose (isSet.shown nonempty).1 same true rest
  | atEnd _ ih =>
    rw [List.append_assoc, ih]
    rfl
  | @maybe branches items item _ _ settled ih =>
    have goes : step ⟨.plain, ⟨branches, item :: items⟩, outer⟩ '?' =
        some ⟨.plain, ⟨branches, maybe item :: items⟩, outer⟩ :=
      if_neg (Bool.eq_false_iff.mp settled)
    rw [List.append_assoc, ih]
    exact readFrom_step goes rest
  | star _ ih =>
    rw [List.append_assoc, ih]
    rfl
  | plus _ ih =>
    rw [List.append_assoc, ih]
    rfl
  | @group frame _ text innerText _ _ ih inside =>
    rw [List.append_assoc, ih]
    show readFrom _ ('(' :: '?' :: ':' :: (innerText ++ [')'] ++ rest)) = _
    rw [readFrom_step rfl, readFrom_step rfl, readFrom_step rfl, List.append_assoc,
      inside (⟨frame, false⟩ :: outer)]
    rfl
  | @keptGroup frame inner text innerText _ _ ih inside =>
    have isRead : readFrom ⟨.plain, {}, []⟩ innerText = some inner.pattern := by
      have reads := inside [] []
      rw [List.append_nil] at reads
      exact reads
    have noMark : (innerText ++ (')' :: rest)).head? ≠ some '?' := by
      have start := head?_ne_of_reads isRead
      cases innerText with
      | nil => exact fun same => absurd (Option.some.inj same) (by decide)
      | cons char more => exact start
    rw [List.append_assoc, ih]
    show readFrom _ ('(' :: (innerText ++ [')'] ++ rest)) = _
    rw [readFrom_step rfl, List.append_assoc, List.singleton_append, readFrom_opened noMark,
      inside (⟨frame, true⟩ :: outer)]
    rfl
  | bar _ ih =>
    rw [List.append_assoc, ih]
    rfl

end

/-- **A text is read as the pattern that it is the form of.** -/
theorem read?_of_isForm {pattern : Pattern} {text : List Char} (isForm : IsForm pattern text) :
    read? text = some pattern := by
  obtain ⟨frame, isText, rfl⟩ := isForm
  have reads := readFrom_of_isText isText [] []
  rw [List.append_nil] at reads
  exact reads

/-! ### Engines -/

theorem occurs_iff_append {matchesHere : List Char → Bool} {text : List Char} :
    occurs matchesHere text = true ↔
      ∃ left right, text = left ++ right ∧ matchesHere right = true := by
  rw [occurs_iff]
  constructor
  · rintro ⟨right, ⟨left, rfl⟩, here⟩
    exact ⟨left, right, rfl, here⟩
  · rintro ⟨left, right, rfl, here⟩
    exact ⟨right, List.suffix_append left right, here⟩

/-- A pattern matches somewhere in a text. -/
def Matches (pattern : Pattern) (text : List Char) : Prop :=
  ∃ left right, text = left ++ right ∧ ∃ rest, rest ∈ pattern.rests right

theorem isFound_iff (pattern : Pattern) (text : List Char) :
    pattern.isFound text = true ↔ pattern.Matches text := by
  rw [isFound, occurs_iff_append]
  refine exists₂_congr fun left right => and_congr_right fun _ => ?_
  cases pattern.rests right with
  | nil => simp
  | cons rest others => exact iff_of_true rfl ⟨rest, List.mem_cons_self⟩

end Pattern

/-- **An engine that goes by the form of a pattern:** if it compiles it, it finds it where it matches. -/
def Engine.IsFaithful (engine : Engine) : Prop :=
  ∀ {pattern : Pattern} {text : List Char} {compiled : engine.Compiled}, pattern.IsForm text →
    engine.compile text = some compiled →
      ∀ line, engine.isMatch compiled line = true ↔ pattern.Matches line

/-- The engine that reads a pattern goes by its form. -/
theorem Engine.reading_isFaithful : Engine.reading.IsFaithful := by
  intro pattern text compiled isForm compiles line
  obtain rfl := Option.some.inj ((Pattern.read?_of_isForm isForm).symm.trans compiles)
  exact pattern.isFound_iff line

/-! ### Escaped texts -/

theorem escape_cons (char : Char) (chars : List Char) : escape (char :: chars) =
    (if Pattern.marks.contains char then ['\\', char] else [char]) ++ escape chars :=
  List.flatMap_cons

/-- **The characters of an escaped text are read as they are.** -/
theorem Pattern.IsText.escape {frame : Frame} {text : List Char} (before : IsText frame text)
    (chars : List Char) : IsText ⟨frame.branches, (chars.map literal).reverse ++ frame.items⟩
      (text ++ escape chars) := by
  induction chars generalizing frame text with
  | nil =>
    rw [MediaTrail.escape, List.flatMap_nil, List.append_nil]
    exact before
  | cons char chars ih =>
    have here : IsText (frame.push (literal char))
        (text ++ if marks.contains char then ['\\', char] else [char]) := by
      by_cases isMark : marks.contains char = true
      · rw [if_pos isMark]
        exact before.escaped (List.contains_iff_mem.mp isMark)
      · rw [if_neg isMark]
        exact before.char fun member => isMark (List.contains_iff_mem.mpr member)
    rw [escape_cons, ← List.append_assoc, List.map_cons, List.reverse_cons, List.append_assoc]
    exact ih here

end MediaTrail
