/-
**The column of a request, as its pattern finds it.** The pattern repeats blanks, the letters of a
method and the characters of a path, and each repetition tries the longest match first and gives up one
character after the other. What comes behind a repetition never starts with a character that can be
repeated, so that only the longest match leads on, and the path can be read in one pass.

* `ways_eq_rests`: a pattern without groups keeps nothing;
* `ways_star`, `ways_plus`: behind a repetition, where only its longest match leads on;
* `isForm_requestText`, `columnPattern_keeps`: the pattern of the column, and what its group keeps;
* `LinePatterns.requestPath?_eq`: the path that is kept of a line is the one that is read;
* `LinePatterns.forwards_eq`: compiled patterns decide about a line as reading without them does.
-/

import MediaTrail.Proofs.LiteralPatterns
import MediaTrail.Proofs.RequestColumn

namespace MediaTrail

open Text

namespace Pattern

/-! ### What is kept -/

/-- **A pattern without groups keeps nothing,** in whatever way it matches. -/
theorem ways_eq_rests {pattern : Pattern} (noGroup : pattern.groups = 0) (text : List Char) :
    pattern.ways text = (pattern.rests text).map fun rest => (rest, none) := by
  induction pattern generalizing text with
  | one | atEnd | nothing | many => rfl
  | both first second ihFirst ihSecond =>
    obtain ⟨noFirst, noSecond⟩ := Nat.add_eq_zero_iff.mp noGroup
    rw [ways, rests, ihFirst noFirst, List.flatMap_map, List.map_flatMap]
    refine List.flatMap_congr fun rest _ => ?_
    rw [ihSecond noSecond, List.map_map]
    rfl
  | either first second ihFirst ihSecond =>
    obtain ⟨noFirst, noSecond⟩ := Nat.add_eq_zero_iff.mp noGroup
    rw [ways, rests, ihFirst noFirst, ihSecond noSecond, List.map_append]
  | maybe inner ih =>
    rw [ways, rests, ih noGroup, List.map_append, List.map_singleton]
  | group inner _ => cases noGroup

/-- Behind an item that keeps nothing, the rest of the pattern goes on with what is left. -/
theorem ways_sequence_cons {item : Pattern} (noGroup : item.groups = 0) (items : List Pattern)
    (text : List Char) : (sequence (item :: items)).ways text =
      (item.rests text).flatMap (sequence items).ways := by
  show (both item (sequence items)).ways text = _
  rw [ways, ways_eq_rests noGroup, List.flatMap_map]
  refine List.flatMap_congr fun rest _ => ?_
  exact List.map_id _

theorem ways_sequence_singleton (item : Pattern) (text : List Char) :
    (sequence [item]).ways text = item.ways text := by
  show (both item nothing).ways text = _
  rw [ways]
  have alone : ∀ way : List Char × Option (List Char),
      (nothing.ways way.1).map (fun later => (later.1, way.2 <|> later.2)) = [way] := by
    rintro ⟨rest, kept⟩
    cases kept <;> rfl
  simp only [alone, List.flatMap_singleton']

/-! ### Repetitions -/

section

variable {set : CharSet} {items : List Pattern}

/-- No way to match starts with a character of a set. -/
def StopsAt (items : List Pattern) (set : CharSet) : Prop :=
  ∀ char rest, set.holds char = true → (sequence items).ways (char :: rest) = []

/-- If nothing that comes behind starts with a repeated character, only the longest repetition leads
on. -/
theorem flatMap_skips {α : Type} {next : List Char → List α}
    (stops : ∀ char rest, set.holds char = true → next (char :: rest) = []) (text : List Char) :
    (skips set text).flatMap next = next (text.dropWhile set.holds) := by
  induction text with
  | nil => exact List.append_nil _
  | cons char rest ih =>
    by_cases holds : set.holds char = true
    · rw [skips, if_pos holds, List.flatMap_append, ih, List.dropWhile_cons_of_pos holds,
        List.flatMap_singleton, stops char rest holds, List.append_nil]
    · rw [skips, if_neg holds, List.nil_append, List.flatMap_singleton,
        List.dropWhile_cons_of_neg holds]

theorem head?_skips (text : List Char) :
    (skips set text).head? = some (text.dropWhile set.holds) := by
  induction text with
  | nil => rfl
  | cons char rest ih =>
    by_cases holds : set.holds char = true
    · rw [skips, if_pos holds, List.head?_append, ih, List.dropWhile_cons_of_pos holds]
      rfl
    · rw [skips, if_neg holds, List.dropWhile_cons_of_neg holds]
      rfl

theorem ways_star (stops : StopsAt items set) (text : List Char) :
    (sequence (many set :: items)).ways text =
      (sequence items).ways (text.dropWhile set.holds) := by
  rw [ways_sequence_cons rfl]
  exact flatMap_skips stops text

theorem ways_one (text : List Char) : (sequence (one set :: items)).ways text =
    if text.head?.any set.holds then (sequence items).ways text.tail else [] := by
  rw [ways_sequence_cons rfl]
  cases text with
  | nil => rfl
  | cons char rest =>
    show (if set.holds char = true then [rest] else []).flatMap _ =
      if set.holds char = true then _ else _
    by_cases holds : set.holds char = true
    · rw [if_pos holds, if_pos holds, List.flatMap_singleton, List.tail_cons]
    · rw [if_neg holds, if_neg holds, List.flatMap_nil]

theorem ways_plus (stops : StopsAt items set) (text : List Char) :
    (sequence (one set :: many set :: items)).ways text =
      if text.head?.any set.holds then (sequence items).ways (text.dropWhile set.holds) else [] := by
  rw [ways_one]
  cases text with
  | nil => rfl
  | cons char rest =>
    by_cases holds : set.holds char = true
    · rw [ways_star stops, List.tail_cons, List.dropWhile_cons_of_pos holds]
    · rw [List.head?_cons, Option.any_some, if_neg holds, if_neg holds]

end

/-! ### The pattern of the column -/

/-- Blanks, the letters of a method, and what a path is made of. -/
def blanks : CharSet := ⟨false, blankRanges⟩

def capitals : CharSet := ⟨false, [⟨'A'.toNat, 'Z'.toNat⟩]⟩

def pathChars : CharSet := ⟨true, blankRanges ++ [rangeOf '"']⟩

theorem holds_blanks : blanks.holds = isBlank := by
  funext char
  exact Bool.bne_false _

theorem holds_capitals : capitals.holds = isMethodChar := by
  funext char
  rw [Bool.eq_iff_iff, CharSet.holds, capitals, Bool.bne_false, covers_iff, isMethodChar,
    Bool.and_eq_true, decide_eq_true_eq, decide_eq_true_eq]
  simp only [List.mem_singleton, exists_eq_left]
  exact Iff.rfl

theorem holds_pathChars : pathChars.holds = isPathChar := by
  funext char
  have quote : covers [rangeOf '"'] char = (char == '"') := by
    rw [Bool.eq_iff_iff, beq_iff_eq, ← holds_rangeOf, CharSet.holds, Bool.bne_false]
  rw [CharSet.holds, pathChars, Bool.bne_true, covers_append, quote, Bool.not_or]
  rfl

/-- A path, which is kept. -/
def keptPath : Pattern := group (sequence [literal '/', many pathChars])

/-- A path behind at most one quote. -/
def quotedPath : List Pattern := [maybe (literal '"'), keptPath]

/-- The column of a request. -/
def columnPattern : Pattern :=
  sequence (literal '|' :: many blanks :: one capitals :: many capitals :: one blanks ::
    many blanks :: quotedPath)

theorem isForm_requestText : IsForm columnPattern LinePatterns.requestText := by
  have letters : IsSet capitals.ranges "A-Z".toList :=
    IsSet.none.range (by decide) (by decide) (by decide)
  have noEnd : IsSet pathChars.ranges "\\s\"".toList := IsSet.none.blank.char (by decide)
  have path : IsText ⟨[], [many pathChars, literal '/']⟩ "/[^\\s\"]*".toList :=
    ((IsText.nothing.char (by decide)).otherSet noEnd (by decide)).star
  have mark : IsText ⟨[], [many blanks, literal '|']⟩ "\\|\\s*".toList :=
    ((IsText.nothing.escaped (by decide)).blank).star
  have method := (mark.set letters (by decide)).plus
  have quote := (method.blank.plus.char (show '"' ∉ marks by decide)).maybe rfl
  exact ⟨_, quote.keptGroup path, rfl⟩

/-- A character does not match where it does not stand. -/
theorem rests_literal_of_ne {char : Char} {text : List Char} (absent : ∀ rest, text ≠ char :: rest) :
    (literal char).rests text = [] :=
  List.eq_nil_iff_forall_not_mem.mpr fun rest isRest => absent rest (mem_rests_literal.mp isRest)

theorem ways_keptPath_of_ne {text : List Char} (noSlash : text.head? ≠ some '/') :
    keptPath.ways text = [] := by
  have absent : ∀ rest, text ≠ '/' :: rest := by
    rintro rest rfl
    exact noSlash rfl
  have noRest : (sequence [literal '/', many pathChars]).rests text = [] := by
    show ((literal '/').rests text).flatMap _ = []
    rw [rests_literal_of_ne absent, List.flatMap_nil]
  rw [keptPath, ways, noRest, List.map_nil]

/-- What is in front of the rest behind some characters are these characters. -/
theorem take_before_dropWhile (holds : Char → Bool) (text : List Char) :
    text.take (text.length - (text.dropWhile holds).length) = text.takeWhile holds := by
  have parts := List.takeWhile_append_dropWhile (p := holds) (l := text)
  have lengths := congrArg List.length parts
  rw [List.length_append] at lengths
  have size : text.length - (text.dropWhile holds).length = (text.takeWhile holds).length := by omega
  rw [size]
  calc text.take (text.takeWhile holds).length
      = (text.takeWhile holds ++ text.dropWhile holds).take (text.takeWhile holds).length := by
        rw [parts]
    _ = text.takeWhile holds := List.take_left

/-- **The longest path is kept,** if there is one. -/
theorem head?_ways_keptPath (text : List Char) : (keptPath.ways text).head?.map Prod.snd =
    (if text.head? == some '/' then some (text.takeWhile isPathChar) else none).map some := by
  by_cases slash : text.head? = some '/'
  · obtain ⟨rest, rfl⟩ := List.head?_eq_some_iff.mp slash
    have isRest : (sequence [literal '/', many pathChars]).rests ('/' :: rest) =
        skips pathChars rest := by
      show ([rest].flatMap fun text => (skips pathChars text).flatMap fun text => [text]) = _
      rw [List.flatMap_singleton, List.flatMap_singleton']
    have isPath : isPathChar '/' = true := by decide
    rw [keptPath, ways, isRest, List.head?_map, head?_skips, holds_pathChars, Option.map_some,
      Option.map_some, ← List.dropWhile_cons_of_pos isPath, take_before_dropWhile]
    rfl
  · rw [ways_keptPath_of_ne slash, if_neg fun same => slash (beq_iff_eq.mp same)]
    rfl

theorem ways_quotedPath (text : List Char) :
    (sequence quotedPath).ways text = keptPath.ways (skipQuote text) := by
  have alone : (sequence [keptPath]).ways = keptPath.ways := funext (ways_sequence_singleton keptPath)
  rw [quotedPath, ways_sequence_cons rfl, alone, rests, List.flatMap_append, List.flatMap_singleton]
  unfold skipQuote
  split
  · rename_i rest
    show [rest].flatMap _ ++ _ = _
    have noSlash : ('"' :: rest).head? ≠ some '/' := fun same =>
      absurd (Option.some.inj same) (by decide)
    rw [List.flatMap_singleton, ways_keptPath_of_ne noSlash, List.append_nil]
  · rename_i noQuote
    rw [rests_literal_of_ne noQuote]
    rfl

/-- Neither a quote nor a path starts with a blank. -/
theorem quotedPath_stops : StopsAt quotedPath blanks := by
  intro char rest holds
  rw [holds_blanks] at holds
  have noQuote : char ≠ '"' := by
    rintro rfl
    exact absurd holds (by decide)
  have noSlash : char ≠ '/' := by
    rintro rfl
    exact absurd holds (by decide)
  rw [ways_quotedPath, skipQuote_of_ne noQuote]
  exact ways_keptPath_of_ne fun same => noSlash (Option.some.inj same)

/-- Blanks in front of a path do not start with a letter. -/
theorem blanks_stop : StopsAt (one blanks :: many blanks :: quotedPath) capitals := by
  intro char rest holds
  rw [holds_capitals] at holds
  rw [ways_plus quotedPath_stops, List.head?_cons, Option.any_some, holds_blanks,
    isBlank_of_isMethodChar holds]
  rfl

/-- A method does not start with a blank. -/
theorem method_stops :
    StopsAt (one capitals :: many capitals :: one blanks :: many blanks :: quotedPath) blanks := by
  intro char rest holds
  rw [holds_blanks] at holds
  rw [ways_plus blanks_stop, List.head?_cons, Option.any_some, holds_capitals,
    isMethodChar_of_isBlank holds]
  rfl

/-- **How the column matches:** with each repetition at its longest. -/
theorem ways_columnPattern (text : List Char) : columnPattern.ways ('|' :: text) =
    if (text.dropWhile isBlank).head?.any isMethodChar then
      if ((text.dropWhile isBlank).dropWhile isMethodChar).head?.any isBlank then
        keptPath.ways (skipQuote
          (((text.dropWhile isBlank).dropWhile isMethodChar).dropWhile isBlank))
      else []
    else [] := by
  have behindMark : columnPattern.ways ('|' :: text) = (sequence (many blanks :: one capitals ::
      many capitals :: one blanks :: many blanks :: quotedPath)).ways text := by
    rw [columnPattern, ways_sequence_cons rfl]
    exact List.flatMap_singleton _ _
  rw [behindMark, ways_star method_stops, ways_plus blanks_stop, ways_plus quotedPath_stops,
    ways_quotedPath, holds_blanks, holds_capitals]

/-- **The path behind a mark is what the column keeps** of its first match there. -/
theorem columnPattern_keeps (text : List Char) :
    (columnPattern.ways text).head?.map Prod.snd = (pathAfterMark? text).map some := by
  unfold pathAfterMark?
  split
  · rename_i rest
    rw [ways_columnPattern]
    dsimp only
    by_cases letter : (rest.dropWhile isBlank).head?.any isMethodChar = true
    · by_cases blankBehind :
          ((rest.dropWhile isBlank).dropWhile isMethodChar).head?.any isBlank = true
      · rw [if_pos letter, if_pos blankBehind, letter, blankBehind, Bool.true_and, Bool.true_and]
        exact head?_ways_keptPath _
      · rw [if_pos letter, if_neg blankBehind, Bool.eq_false_iff.mpr blankBehind, Bool.and_false]
        rfl
    · rw [if_neg letter, Bool.eq_false_iff.mpr letter]
      rfl
  · rename_i noMark
    rw [columnPattern, ways_sequence_cons rfl, rests_literal_of_ne noMark]
    rfl

theorem findFirst?_map {α β : Type} (tell : α → β) (matchHere? : List Char → Option α)
    (text : List Char) : findFirst? (fun text => (matchHere? text).map tell) text =
      (findFirst? matchHere? text).map tell := by
  induction text with
  | nil => rfl
  | cons char rest ih =>
    rw [findFirst?, findFirst?, ih]
    cases matchHere? (char :: rest) <;> rfl

/-- **What the column keeps of a text** is the path that is read in it. -/
theorem kept?_columnPattern (text : List Char) :
    columnPattern.kept? text = findFirst? pathAfterMark? text := by
  rw [kept?, funext columnPattern_keeps, findFirst?_map]
  cases findFirst? pathAfterMark? text <;> rfl

end Pattern

/-! ### Engines -/

open Pattern

/-- **An engine that keeps what the group of a pattern matches:** if the pattern has one group at most
and the engine compiles it, what is kept of a text is that of the match that starts first, and of those
that start there of the preferred one. -/
def Engine.KeepsGroup (engine : Engine) : Prop :=
  ∀ {pattern : Pattern} {text : List Char} {compiled : engine.Compiled}, pattern.IsForm text →
    pattern.groups ≤ 1 → engine.compile text = some compiled →
      ∀ line, engine.kept? compiled line = pattern.kept? line

/-- The engine that reads a pattern keeps what its group matches. -/
theorem Engine.reading_keepsGroup : Engine.reading.KeepsGroup := by
  intro pattern text compiled isForm _ compiles line
  obtain rfl := Option.some.inj ((read?_of_isForm isForm).symm.trans compiles)
  rfl

namespace LinePatterns

variable {engine : Engine} {classifier : Classifier}

/-- **The path of a request that the pattern keeps of a line is the one that is read in it.** -/
theorem requestPath?_eq (keeps : engine.KeepsGroup)
    (compiled : (engine.compile requestText).isSome = true) (line : String) :
    (compile engine classifier).requestPath? line = MediaTrail.requestPath? line := by
  obtain ⟨pattern, isCompiled⟩ := Option.isSome_iff_exists.mp compiled
  have isPattern : (compile engine classifier).request = some pattern := isCompiled
  rw [LinePatterns.requestPath?, isPattern, Option.bind_some,
    keeps isForm_requestText (Nat.le_refl 1) isCompiled, kept?_columnPattern, MediaTrail.requestPath?]

/-- **Compiled patterns let the same lines through** as reading without patterns does, if the engine
goes by the forms of patterns and compiles those of the filter. -/
theorem forwards_eq (faithful : engine.IsFaithful) (keeps : engine.KeepsGroup)
    (compiles : engine.Compiles classifier)
    (compiled : (engine.compile requestText).isSome = true) (line : String) :
    (compile engine classifier).forwards classifier line = classifier.forwards line := by
  have calls : (compile engine classifier).callsApi line = classifier.callsApi line :=
    Bool.eq_iff_iff.mpr
      ((callsApi_iff line faithful compiles).trans (Classifier.callsApi_iff line).symm)
  have mentions :
      (compile engine classifier).mentionsMedia line = classifier.extensions.mentioned line :=
    Bool.eq_iff_iff.mpr
      ((mentionsMedia_iff line faithful compiles).trans (Extensions.mentioned_iff line).symm)
  rw [LinePatterns.forwards, Classifier.forwards, requestPath?_eq keeps compiled]
  cases MediaTrail.requestPath? line with
  | none =>
    dsimp only
    rw [calls, mentions]
  | some path =>
    dsimp only
    rw [mentions]

end LinePatterns

end MediaTrail
