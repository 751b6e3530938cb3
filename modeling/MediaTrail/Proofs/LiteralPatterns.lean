/-
**What the patterns of the line filter find.** They are made of configured names and paths, which may
hold any characters, also those that patterns give a meaning to. Each is escaped, so that the patterns
find what is configured as it is written: a name behind a dot that ends where its letters and digits do,
and a path behind a blank that ends where a path may.

* `mem_rests_literals`, `Frame.mem_rests_pattern`: what characters as they are match, and alternatives;
* `isForm_pathText`, `exists_isForm_nameText`: the patterns that the texts for paths and names are the
  forms of;
* `LinePatterns.find_literally`: what compiled patterns find in a line.
-/

import Mathlib.Data.List.Basic
import MediaTrail.Proofs.PatternText

namespace MediaTrail

open Text

namespace Pattern

/-! ### What matches -/

section

variable {text rest : List Char}

theorem mem_rests_one {set : CharSet} :
    rest ∈ (one set).rests text ↔ ∃ char, set.holds char = true ∧ text = char :: rest := by
  cases text with
  | nil => simp [rests]
  | cons char later =>
    by_cases holds : set.holds char = true
    · simp only [rests, if_pos holds, List.mem_singleton, List.cons.injEq]
      constructor
      · rintro rfl
        exact ⟨char, holds, rfl, rfl⟩
      · rintro ⟨_, _, rfl, rfl⟩
        rfl
    · simp only [rests, if_neg holds, List.not_mem_nil, false_iff]
      rintro ⟨_, holdsToo, same⟩
      obtain ⟨rfl, -⟩ := List.cons.inj same
      exact holds holdsToo

theorem mem_rests_atEnd : rest ∈ atEnd.rests text ↔ text = [] ∧ rest = [] := by
  cases text <;> simp [rests]

theorem mem_rests_both {first second : Pattern} :
    rest ∈ (both first second).rests text ↔
      ∃ middle ∈ first.rests text, rest ∈ second.rests middle := by
  rw [rests, List.mem_flatMap]

theorem mem_rests_either {first second : Pattern} :
    rest ∈ (either first second).rests text ↔
      rest ∈ first.rests text ∨ rest ∈ second.rests text := by
  rw [rests, List.mem_append]

theorem mem_rests_maybe {inner : Pattern} :
    rest ∈ (maybe inner).rests text ↔ rest ∈ inner.rests text ∨ rest = text := by
  rw [rests, List.mem_append, List.mem_singleton]

theorem mem_rests_sequence_nil : rest ∈ (sequence []).rests text ↔ rest = text :=
  List.mem_singleton

theorem mem_rests_sequence_cons {item : Pattern} {items : List Pattern} :
    rest ∈ (sequence (item :: items)).rests text ↔
      ∃ middle ∈ item.rests text, rest ∈ (sequence items).rests middle :=
  mem_rests_both

theorem mem_rests_sequence_append {items later : List Pattern} :
    rest ∈ (sequence (items ++ later)).rests text ↔
      ∃ middle ∈ (sequence items).rests text, rest ∈ (sequence later).rests middle := by
  induction items generalizing text with
  | nil => simp [mem_rests_sequence_nil]
  | cons item items ih =>
    simp only [List.cons_append, mem_rests_sequence_cons, ih]
    constructor
    · rintro ⟨middle, inItem, behind, inItems, inLater⟩
      exact ⟨behind, ⟨middle, inItem, inItems⟩, inLater⟩
    · rintro ⟨behind, ⟨middle, inItem, inItems⟩, inLater⟩
      exact ⟨middle, inItem, behind, inItems, inLater⟩

/-- The set of a single character holds no other. -/
theorem holds_rangeOf {char other : Char} :
    (⟨false, [rangeOf char]⟩ : CharSet).holds other = true ↔ other = char := by
  have covered : covers [rangeOf char] other = true ↔ other = char := by
    rw [covers_iff]
    constructor
    · rintro ⟨range, inRanges, least, most⟩
      rw [List.mem_singleton.mp inRanges] at least most
      exact Char.toNat_inj.mp (Nat.le_antisymm most least)
    · rintro rfl
      exact ⟨_, List.mem_singleton_self _, Nat.le_refl _, Nat.le_refl _⟩
  rw [CharSet.holds, Bool.bne_false, covered]

theorem mem_rests_literal {char : Char} :
    rest ∈ (literal char).rests text ↔ text = char :: rest := by
  rw [literal, mem_rests_one]
  constructor
  · rintro ⟨other, holds, rfl⟩
    rw [holds_rangeOf.mp holds]
  · rintro rfl
    exact ⟨char, holds_rangeOf.mpr rfl, rfl⟩

/-- **Characters as they are match themselves** and nothing else. -/
theorem mem_rests_literals {chars : List Char} :
    rest ∈ (sequence (chars.map literal)).rests text ↔ text = chars ++ rest := by
  induction chars generalizing text with
  | nil =>
    rw [List.map_nil, mem_rests_sequence_nil, List.nil_append]
    exact eq_comm
  | cons char chars ih =>
    simp only [List.map_cons, mem_rests_sequence_cons, mem_rests_literal, ih, List.cons_append]
    constructor
    · rintro ⟨_, rfl, rfl⟩
      rfl
    · rintro rfl
      exact ⟨_, rfl, rfl⟩

theorem mem_rests_blank :
    rest ∈ blank.rests text ↔ ∃ char, isBlank char = true ∧ text = char :: rest := by
  rw [blank, mem_rests_one]
  simp only [CharSet.holds, Bool.bne_false]
  rfl

/-- **Alternatives match where one of them does.** -/
theorem Frame.mem_rests_pattern {frame : Frame} : rest ∈ frame.pattern.rests text ↔
    ∃ branch ∈ frame.items :: frame.branches, rest ∈ (sequence branch.reverse).rests text := by
  have general : ∀ (branches : List (List Pattern)) (last : Pattern),
      rest ∈ (branches.foldl (fun later branch => either (sequence branch.reverse) later) last).rests
        text ↔ rest ∈ last.rests text ∨ ∃ branch ∈ branches,
          rest ∈ (sequence branch.reverse).rests text := by
    intro branches
    induction branches with
    | nil => simp
    | cons branch branches ih =>
      intro last
      rw [List.foldl_cons, ih, mem_rests_either]
      simp only [List.mem_cons, exists_eq_or_imp]
      exact (or_congr_left or_comm).trans or_assoc
  rw [Frame.pattern, general]
  simp

/-! ### Where a word ends -/

/-- A character of a set, or the end of the text. -/
def ending (set : CharSet) : Frame := ⟨[[one set]], [atEnd]⟩

theorem mem_rests_ending {set : CharSet} : rest ∈ (ending set).pattern.rests text ↔
    text = [] ∧ rest = [] ∨ ∃ char, set.holds char = true ∧ text = char :: rest := by
  simp only [Frame.mem_rests_pattern, ending, List.mem_cons, List.not_mem_nil, or_false,
    exists_eq_or_imp, exists_eq_left, List.reverse_singleton, mem_rests_sequence_cons,
    mem_rests_sequence_nil, exists_eq_right', mem_rests_atEnd, mem_rests_one]

/-- The end of a word matches in front of a character of the set, and at the end of the text. -/
theorem exists_mem_rests_ending {set : CharSet} :
    (∃ rest, rest ∈ (ending set).pattern.rests text) ↔ ∀ char ∈ text.head?, set.holds char = true := by
  simp only [mem_rests_ending]
  cases text with
  | nil => exact ⟨fun _ _ never => (by cases never), fun _ => ⟨[], Or.inl ⟨rfl, rfl⟩⟩⟩
  | cons char later =>
    constructor
    · rintro ⟨rest, ⟨empty, -⟩ | ⟨_, holds, same⟩⟩ other isHead
      · cases empty
      · obtain ⟨rfl, rfl⟩ := List.cons.inj same
        obtain rfl := Option.some.inj isHead
        exact holds
    · intro holds
      exact ⟨later, Or.inr ⟨char, holds char rfl, rfl⟩⟩

end

/-- The characters that may follow a path. -/
def pathEnds : CharSet := ⟨false, [rangeOf '?'] ++ blankRanges ++ [rangeOf '"']⟩

/-- The characters that may follow a name: all but small letters and digits. -/
def nameEnds : CharSet := ⟨true, [⟨'a'.toNat, 'z'.toNat⟩, ⟨'0'.toNat, '9'.toNat⟩]⟩

theorem isText_pathEnds : IsText (ending pathEnds) "[?\\s\"]|$".toList := by
  have isSet : IsSet pathEnds.ranges "?\\s\"".toList :=
    ((IsSet.none.char (by decide)).blank).char (by decide)
  exact ((IsText.nothing.set isSet (by decide)).bar).atEnd

theorem isText_nameEnds : IsText (ending nameEnds) "[^a-z0-9]|$".toList := by
  have isSet : IsSet nameEnds.ranges "a-z0-9".toList :=
    (IsSet.none.range (by decide) (by decide) (by decide)).range (by decide) (by decide) (by decide)
  exact ((IsText.nothing.otherSet isSet (by decide)).bar).atEnd

theorem covers_append (ranges more : List CodeRange) (char : Char) :
    covers (ranges ++ more) char = (covers ranges char || covers more char) :=
  List.any_append

theorem holds_pathEnds {char : Char} :
    pathEnds.holds char = true ↔ char = '?' ∨ isBlank char = true ∨ char = '"' := by
  have single : ∀ {other : Char}, covers [rangeOf other] char = true ↔ char = other := by
    intro other
    rw [← holds_rangeOf, CharSet.holds, Bool.bne_false]
  rw [CharSet.holds, pathEnds, Bool.bne_false, covers_append, covers_append, Bool.or_eq_true,
    Bool.or_eq_true, single, single, or_assoc]
  rfl

theorem holds_nameEnds {char : Char} : nameEnds.holds char = true ↔
    ¬ ('a' ≤ char ∧ char ≤ 'z') ∧ ¬ ('0' ≤ char ∧ char ≤ '9') := by
  rw [CharSet.holds, nameEnds, Bool.bne_true, Bool.not_eq_true', Bool.eq_false_iff, Ne, covers_iff]
  simp only [List.mem_cons, List.not_mem_nil, or_false, exists_eq_or_imp, exists_eq_left, not_or]
  exact Iff.rfl

theorem exists_mem_rests_pathEnds {text : List Char} :
    (∃ rest, rest ∈ (ending pathEnds).pattern.rests text) ↔
      ∀ char ∈ text.head?, char = '?' ∨ isBlank char = true ∨ char = '"' :=
  exists_mem_rests_ending.trans (forall₂_congr fun _ _ => holds_pathEnds)

theorem exists_mem_rests_nameEnds {text : List Char} :
    (∃ rest, rest ∈ (ending nameEnds).pattern.rests text) ↔
      ∀ char ∈ text.head?, ¬ ('a' ≤ char ∧ char ≤ 'z') ∧ ¬ ('0' ≤ char ∧ char ≤ '9') :=
  exists_mem_rests_ending.trans (forall₂_congr fun _ _ => holds_nameEnds)

end Pattern

/-! ### The forms of the patterns -/

open Pattern

/-- A text starts with a blank, perhaps a quote, and a path that ends there. -/
def CallsAt (path : String) (text : List Char) : Prop :=
  ∃ before quote right, text = before :: (quote ++ (path.toList ++ right)) ∧ isBlank before = true ∧
    (quote = [] ∨ quote = ['"']) ∧
    ∀ char ∈ right.head?, char = '?' ∨ isBlank char = true ∨ char = '"'

/-- A text starts with a dot and a name that ends there. -/
def MentionsAt (names : List String) (text : List Char) : Prop :=
  ∃ name ∈ names, ∃ right, text = '.' :: (name.toList ++ right) ∧
    ∀ char ∈ right.head?, ¬ ('a' ≤ char ∧ char ≤ 'z') ∧ ¬ ('0' ≤ char ∧ char ≤ '9')

/-- The pattern of a path. -/
def pathPattern (path : String) : Pattern :=
  sequence ([blank, maybe (literal '"')] ++ (path.toList.map literal ++ [(ending pathEnds).pattern]))

theorem isForm_pathText (path : String) : IsForm (pathPattern path) (LinePatterns.pathText path) := by
  have start : IsText ⟨[], [maybe (literal '"'), blank]⟩ "\\s\"?".toList :=
    ((IsText.nothing.blank).char (by decide)).maybe rfl
  have isText := (start.escape path.toList).group isText_pathEnds
  rw [List.append_assoc] at isText
  refine ⟨_, isText, ?_⟩
  show sequence (_ :: (_ ++ _)).reverse = _
  rw [List.reverse_cons, List.reverse_append, List.reverse_reverse, List.append_assoc]
  rfl

theorem exists_mem_rests_pathPattern {path : String} {text : List Char} :
    (∃ rest, rest ∈ (pathPattern path).rests text) ↔ CallsAt path text := by
  have quoted : ∀ {behind middle : List Char}, behind ∈ (maybe (literal '"')).rests middle ↔
      ∃ quote, (quote = [] ∨ quote = ['"']) ∧ middle = quote ++ behind := by
    intro behind middle
    rw [mem_rests_maybe, mem_rests_literal]
    simp only [or_and_right, exists_or, exists_eq_left, List.nil_append, List.singleton_append]
    exact or_comm.trans (or_congr_left eq_comm)
  simp only [pathPattern, mem_rests_sequence_append, mem_rests_sequence_cons, mem_rests_sequence_nil,
    mem_rests_literals, mem_rests_blank, quoted]
  constructor
  · rintro ⟨rest, _, ⟨_, ⟨before, isBefore, rfl⟩, _, ⟨quote, isQuote, rfl⟩, rfl⟩, right, rfl, _,
      inEnd, rfl⟩
    exact ⟨before, quote, right, rfl, isBefore, isQuote, exists_mem_rests_pathEnds.mp ⟨rest, inEnd⟩⟩
  · rintro ⟨before, quote, right, rfl, isBefore, isQuote, ends⟩
    obtain ⟨rest, inEnd⟩ := exists_mem_rests_pathEnds.mpr ends
    exact ⟨rest, _, ⟨_, ⟨before, isBefore, rfl⟩, _, ⟨quote, isQuote, rfl⟩, rfl⟩, right, rfl, rest,
      inEnd, rfl⟩

/-- Escaped names with bars between them are alternatives of their characters. Each name becomes the last
of them, and the one before the bar goes to the others. -/
theorem exists_isText_names {names : List String} (nonempty : names ≠ [])
    {branches : List (List Pattern)} {text : List Char} (before : IsText ⟨branches, []⟩ text) :
    ∃ frame, IsText frame (text ++ ['|'].intercalate (names.map fun name => escape name.toList)) ∧
      frame.items :: frame.branches =
        (names.map fun name => (name.toList.map literal).reverse).reverse ++ branches := by
  induction names generalizing branches text with
  | nil => exact absurd rfl nonempty
  | cons name names ih =>
    have here := before.escape name.toList
    rw [List.append_nil] at here
    cases names with
    | nil => exact ⟨_, by simpa using here, by simp⟩
    | cons next names =>
      obtain ⟨frame, isText, parts⟩ := ih (List.cons_ne_nil _ _) here.bar
      refine ⟨frame, ?_, ?_⟩
      · simpa [List.intercalate] using isText
      · rw [parts]
        simp

/-- The alternatives match where one of the names stands. -/
theorem mem_rests_names {frame : Frame} {names : List String}
    (parts : frame.items :: frame.branches =
      (names.map fun name => (name.toList.map literal).reverse).reverse) {text rest : List Char} :
    rest ∈ frame.pattern.rests text ↔ ∃ name ∈ names, text = name.toList ++ rest := by
  rw [Frame.mem_rests_pattern, parts]
  constructor
  · rintro ⟨_, inBranches, isRest⟩
    obtain ⟨name, inNames, rfl⟩ := List.mem_map.mp (List.mem_reverse.mp inBranches)
    rw [List.reverse_reverse, mem_rests_literals] at isRest
    exact ⟨name, inNames, isRest⟩
  · rintro ⟨name, inNames, same⟩
    refine ⟨_, List.mem_reverse.mpr (List.mem_map.mpr ⟨name, inNames, rfl⟩), ?_⟩
    rw [List.reverse_reverse, mem_rests_literals]
    exact same

/-- **The text for some names is the form of a pattern** that matches where one of them is mentioned. -/
theorem exists_isForm_nameText {names : List String} (nonempty : names ≠ []) :
    ∃ pattern, IsForm pattern (LinePatterns.nameText names) ∧
      ∀ text, (∃ rest, rest ∈ pattern.rests text) ↔ MentionsAt names text := by
  have dot : IsText (Frame.push {} (literal '.')) "\\.".toList := IsText.nothing.escaped (by decide)
  obtain ⟨frame, isText, parts⟩ := exists_isText_names nonempty .nothing
  rw [List.append_nil] at parts
  have whole := (dot.group isText).group isText_nameEnds
  have same : "\\.(?:".toList ++ ((['|'].intercalate (names.map fun name => escape name.toList) ++
      [')']) ++ "(?:[^a-z0-9]|$)".toList) = LinePatterns.nameText names := by
    rw [List.append_assoc]
    rfl
  refine ⟨sequence [literal '.', frame.pattern, (ending nameEnds).pattern], ⟨_, same ▸ whole, rfl⟩,
    fun text => ?_⟩
  simp only [mem_rests_sequence_cons, mem_rests_sequence_nil, mem_rests_literal, mem_rests_names parts]
  constructor
  · rintro ⟨rest, _, rfl, right, ⟨name, inNames, rfl⟩, _, inEnd, rfl⟩
    exact ⟨name, inNames, right, rfl, exists_mem_rests_nameEnds.mp ⟨rest, inEnd⟩⟩
  · rintro ⟨name, inNames, right, rfl, ends⟩
    obtain ⟨rest, inEnd⟩ := exists_mem_rests_nameEnds.mpr ends
    exact ⟨rest, _, rfl, right, ⟨name, inNames, rfl⟩, rest, inEnd, rfl⟩

/-! ### What the filter goes by -/

theorem endsPath_iff {text : List Char} : endsPath text = true ↔
    ∀ char ∈ text.head?, char = '?' ∨ isBlank char = true ∨ char = '"' := by
  cases text with
  | nil => simp [endsPath]
  | cons char later => simp [endsPath, or_assoc]

theorem endsExtension_iff {text : List Char} : endsExtension text = true ↔
    ∀ char ∈ text.head?, ¬ ('a' ≤ char ∧ char ≤ 'z') ∧ ¬ ('0' ≤ char ∧ char ≤ '9') := by
  cases text with
  | nil => simp [endsExtension]
  | cons char later =>
    simp only [endsExtension, List.head?_cons, Option.mem_some_iff, forall_eq', Bool.not_eq_true',
      Bool.or_eq_false_iff, Bool.and_eq_false_iff, decide_eq_false_iff_not, ← not_and_or]

/-- A text starts with another one, in front of a rest with some property. -/
theorem startsWith_iff {start text : List Char} {ends : List Char → Bool} :
    (match start.isPrefixOf? text with
      | some rest => ends rest
      | none => false) = true ↔ ∃ right, text = start ++ right ∧ ends right = true := by
  cases parts : start.isPrefixOf? text with
  | none =>
    refine iff_of_false Bool.false_ne_true ?_
    rintro ⟨right, rfl, -⟩
    rw [List.isPrefixOf?_eq_some_iff_append_eq.mpr rfl] at parts
    cases parts
  | some right =>
    obtain rfl := List.isPrefixOf?_eq_some_iff_append_eq.mp parts
    constructor
    · intro holds
      exact ⟨right, rfl, holds⟩
    · rintro ⟨_, same, holds⟩
      rw [List.append_cancel_left same]
      exact holds

theorem startsWithPath_iff {path text : List Char} : startsWithPath path text = true ↔
    ∃ right, text = path ++ right ∧ endsPath right = true :=
  startsWith_iff

/-- A path stands right behind a blank, or behind a quote there. -/
theorem callsAt_cons {path : String} {char : Char} {rest : List Char} :
    CallsAt path (char :: rest) ↔ isBlank char = true ∧
      ((∃ right, rest = path.toList ++ right ∧ endsPath right = true) ∨
        ∃ right, rest = '"' :: (path.toList ++ right) ∧ endsPath right = true) := by
  simp only [endsPath_iff]
  constructor
  · rintro ⟨before, quote, right, same, isBefore, isQuote, ends⟩
    obtain ⟨rfl, rfl⟩ := List.cons.inj same
    refine ⟨isBefore, ?_⟩
    rcases isQuote with rfl | rfl
    · exact Or.inl ⟨right, rfl, ends⟩
    · exact Or.inr ⟨right, rfl, ends⟩
  · rintro ⟨isBefore, ⟨right, rfl, ends⟩ | ⟨right, rfl, ends⟩⟩
    · exact ⟨char, [], right, rfl, isBefore, Or.inl rfl, ends⟩
    · exact ⟨char, ['"'], right, rfl, isBefore, Or.inr rfl, ends⟩

/-- The filter finds a path where the pattern does. -/
theorem callsHere_iff {path : String} {text : List Char} :
    callsHere path.toList text = true ↔ CallsAt path text := by
  unfold callsHere
  split
  · rw [Bool.and_eq_true, Bool.or_eq_true, callsAt_cons]
    refine and_congr_right fun _ => or_congr startsWithPath_iff ?_
    split
    · simp only [startsWithPath_iff, List.cons.injEq, true_and]
    · rename_i noQuote
      refine iff_of_false Bool.false_ne_true ?_
      rintro ⟨right, same, -⟩
      exact noQuote _ same
  · refine iff_of_false Bool.false_ne_true ?_
    rintro ⟨_, _, _, same, -⟩
    cases same

theorem mentionsHere_iff {names : List String} {text : List Char} :
    mentionsHere (names.map String.toList) text = true ↔ MentionsAt names text := by
  unfold mentionsHere
  split
  · rename_i rest
    rw [List.any_map, List.any_eq_true]
    constructor
    · rintro ⟨name, inNames, starts⟩
      obtain ⟨right, rfl, ends⟩ := startsWith_iff.mp starts
      exact ⟨name, inNames, right, rfl, endsExtension_iff.mp ends⟩
    · rintro ⟨name, inNames, right, same, ends⟩
      exact ⟨name, inNames, startsWith_iff.mpr
        ⟨right, (List.cons.inj same).2, endsExtension_iff.mpr ends⟩⟩
  · rename_i noDot
    refine iff_of_false Bool.false_ne_true ?_
    rintro ⟨name, -, right, same, -⟩
    exact noDot _ same

section

variable {classifier : Classifier} (line : String)

/-- The paths that the filter finds in a line, and the names. -/
theorem Classifier.callsApi_iff : classifier.callsApi line = true ↔
    ∃ path ∈ classifier.apiPaths, ∃ left right, line.toList = left ++ right ∧ CallsAt path right := by
  simp only [Classifier.callsApi, List.any_eq_true, occurs_iff_append, callsHere_iff]

theorem Extensions.mentioned_iff {extensions : Extensions} : extensions.mentioned line = true ↔
    ∃ left right, lower line.toList = left ++ right ∧ MentionsAt extensions.names right := by
  simp only [Extensions.mentioned, occurs_iff_append, mentionsHere_iff]

/-! ### What compiled patterns find -/

/-- An engine compiles the patterns of a classifier. -/
structure Engine.Compiles (engine : Engine) (classifier : Classifier) : Prop where
  paths : ∀ path ∈ classifier.apiPaths, ∃ compiled,
    engine.compile (LinePatterns.pathText path) = some compiled
  names : classifier.extensions.names ≠ [] → ∃ compiled,
    engine.compile (LinePatterns.nameText classifier.extensions.names) = some compiled

variable {engine : Engine}

theorem LinePatterns.callsApi_iff (faithful : engine.IsFaithful)
    (compiles : engine.Compiles classifier) : (compile engine classifier).callsApi line = true ↔
      ∃ path ∈ classifier.apiPaths, ∃ left right,
        line.toList = left ++ right ∧ CallsAt path right := by
  have finds : ∀ {path : String} {compiled : engine.Compiled},
      engine.compile (pathText path) = some compiled →
        (engine.isMatch compiled line.toList = true ↔
          ∃ left right, line.toList = left ++ right ∧ CallsAt path right) := by
    intro path compiled isCompiled
    rw [faithful (isForm_pathText path) isCompiled]
    simp only [Matches, exists_mem_rests_pathPattern]
  rw [LinePatterns.callsApi, List.any_eq_true]
  constructor
  · rintro ⟨compiled, inPatterns, isMatch⟩
    obtain ⟨path, inPaths, isCompiled⟩ := List.mem_filterMap.mp inPatterns
    exact ⟨path, inPaths, (finds isCompiled).mp isMatch⟩
  · rintro ⟨path, inPaths, holds⟩
    obtain ⟨compiled, isCompiled⟩ := compiles.paths path inPaths
    exact ⟨compiled, List.mem_filterMap.mpr ⟨path, inPaths, isCompiled⟩, (finds isCompiled).mpr holds⟩

/-- For no names there is no pattern, and none of them is mentioned. -/
theorem LinePatterns.mentionsMedia_iff (faithful : engine.IsFaithful)
    (compiles : engine.Compiles classifier) : (compile engine classifier).mentionsMedia line = true ↔
      ∃ left right, lower line.toList = left ++ right ∧
        MentionsAt classifier.extensions.names right := by
  by_cases isEmpty : classifier.extensions.names = []
  · have noPattern : (compile engine classifier).media = none := if_pos (List.isEmpty_iff.mpr isEmpty)
    rw [LinePatterns.mentionsMedia, noPattern, isEmpty]
    refine iff_of_false Bool.false_ne_true ?_
    rintro ⟨_, _, -, name, inNames, -⟩
    cases inNames
  · obtain ⟨compiled, isCompiled⟩ := compiles.names isEmpty
    have isPattern : (compile engine classifier).media = some compiled :=
      (if_neg fun noNames => isEmpty (List.isEmpty_iff.mp noNames)).trans isCompiled
    obtain ⟨pattern, isForm, matchesAt⟩ := exists_isForm_nameText isEmpty
    rw [LinePatterns.mentionsMedia, isPattern]
    refine (faithful isForm isCompiled (lower line.toList)).trans ?_
    simp only [Matches, matchesAt]

end

/-- **The patterns of a classifier find its names and paths as they are written,** whatever characters
these hold: a name behind a dot in the lower case of a line, in front of its end or of a character that
is no small letter and no digit; and a path behind a blank and perhaps a quote, in front of the end, of
a query, a blank or a quote. The filter of lines, which looks for names and paths without patterns,
finds the same. -/
theorem LinePatterns.find_literally {engine : Engine} {classifier : Classifier}
    (faithful : engine.IsFaithful) (compiles : engine.Compiles classifier) (line : String) :
    let patterns := LinePatterns.compile engine classifier
    (patterns.mentionsMedia line = classifier.extensions.mentioned line ∧
      (patterns.mentionsMedia line = true ↔ ∃ left name right,
        lower line.toList = left ++ '.' :: (name.toList ++ right) ∧
          name ∈ classifier.extensions.names ∧
          ∀ char ∈ right.head?, ¬ ('a' ≤ char ∧ char ≤ 'z') ∧ ¬ ('0' ≤ char ∧ char ≤ '9'))) ∧
      patterns.callsApi line = classifier.callsApi line ∧
      (patterns.callsApi line = true ↔ ∃ left before quote path right,
        line.toList = left ++ before :: (quote ++ (path.toList ++ right)) ∧
          isBlank before = true ∧ (quote = [] ∨ quote = ['"']) ∧ path ∈ classifier.apiPaths ∧
          ∀ char ∈ right.head?, char = '?' ∨ isBlank char = true ∨ char = '"') := by
  intro patterns
  have mentions := mentionsMedia_iff line faithful compiles
  have calls := callsApi_iff line faithful compiles
  refine ⟨⟨Bool.eq_iff_iff.mpr (mentions.trans (Extensions.mentioned_iff line).symm),
    mentions.trans ?_⟩, Bool.eq_iff_iff.mpr (calls.trans (Classifier.callsApi_iff line).symm),
    calls.trans ?_⟩
  · constructor
    · rintro ⟨left, _, same, name, inNames, right, rfl, ends⟩
      exact ⟨left, name, right, same, inNames, ends⟩
    · rintro ⟨left, name, right, same, inNames, ends⟩
      exact ⟨left, _, same, name, inNames, right, rfl, ends⟩
  · constructor
    · rintro ⟨path, inPaths, left, _, same, before, quote, right, rfl, isBefore, isQuote, ends⟩
      exact ⟨left, before, quote, path, right, same, isBefore, isQuote, inPaths, ends⟩
    · rintro ⟨left, before, quote, path, right, same, isBefore, isQuote, inPaths, ends⟩
      exact ⟨path, inPaths, left, _, same, before, quote, right, rfl, isBefore, isQuote, ends⟩

/-- The reading engine compiles all patterns. -/
theorem Engine.reading_compiles (classifier : Classifier) : Engine.reading.Compiles classifier where
  paths path _ := ⟨_, read?_of_isForm (isForm_pathText path)⟩
  names nonempty := by
    obtain ⟨pattern, isForm, -⟩ := exists_isForm_nameText nonempty
    exact ⟨pattern, read?_of_isForm isForm⟩

/-- A name and a path with characters that mean something else in a pattern. -/
theorem LinePatterns.find_marks :
    let classifier : Classifier := ⟨.ofList ["c++", "rm", "rmvb"], [], "/a.b", "/c", ["/(d|e)?"]⟩
    let patterns := LinePatterns.compile .reading classifier
    patterns.mentionsMedia "x.C++" = true ∧ patterns.mentionsMedia "x.ccc" = false ∧
      patterns.mentionsMedia "x.RMVB" = true ∧ patterns.callsApi "GET \"/(d|e)?\"" = true ∧
      patterns.callsApi "GET /axb" = false := by
  intro classifier patterns
  have found := find_literally Engine.reading_isFaithful (Engine.reading_compiles classifier)
  exact ⟨(found "x.C++").1.1.trans (by decide), (found "x.ccc").1.1.trans (by decide),
    (found "x.RMVB").1.1.trans (by decide), (found "GET \"/(d|e)?\"").2.1.trans (by decide),
    (found "GET /axb").2.1.trans (by decide)⟩

end MediaTrail
