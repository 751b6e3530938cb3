/-
**Parts of texts.** Where a text is cut at a mark, and where at the blanks at its ends. A cut is told by
what its parts are like, so that nothing is said of how it is found.

* `takeWhile_eq_iff`: the part of a text in front of the first mark;
* `trim_eq_iff`: what the blanks at the ends of a text leave.
-/

import Mathlib.Data.List.TakeWhile
import MediaTrail.Proofs.ColumnTexts

namespace MediaTrail

open Text

/-! ### Marks -/

/-- The part of a text in front of the first mark, or the whole text if there is none. -/
structure IsUpTo (mark : Char) (text part : List Char) : Prop where
  unmarked : mark ∉ part
  parts : text = part ∨ ∃ rest, text = part ++ mark :: rest

theorem takeWhile_eq_iff {mark : Char} {text part : List Char} :
    text.takeWhile (· != mark) = part ↔ IsUpTo mark text part := by
  have before {part : List Char} (unmarked : mark ∉ part) :
      ∀ char ∈ part, (char != mark) = true := fun char member =>
    bne_iff_ne.mpr (ne_of_mem_of_not_mem member unmarked)
  constructor
  · rintro rfl
    have all : ∀ char ∈ text.takeWhile (· != mark), (char != mark) = true :=
      List.all_eq_true.mp List.all_takeWhile
    refine ⟨fun member => by simpa using all mark member, ?_⟩
    have whole := List.takeWhile_append_dropWhile (p := (· != mark)) (l := text)
    cases left : text.dropWhile (· != mark) with
    | nil =>
      rw [left, List.append_nil] at whole
      exact .inl whole.symm
    | cons char rest =>
      have stops := List.head?_dropWhile_not (· != mark) text
      rw [left, List.head?_cons] at stops
      obtain rfl : char = mark := by simpa using stops
      exact .inr ⟨rest, by rw [← left, whole]⟩
  · rintro ⟨unmarked, rfl | ⟨rest, rfl⟩⟩
    · exact List.takeWhile_eq_self_iff.mpr (before unmarked)
    · rw [List.takeWhile_append_of_pos (before unmarked), List.takeWhile_cons_of_neg (by simp),
        List.append_nil]

/-- What follows behind one more mark changes nothing. -/
theorem IsUpTo.append_mark {mark : Char} {text part : List Char} (isUpTo : IsUpTo mark text part)
    (more : List Char) : IsUpTo mark (text ++ mark :: more) part := by
  obtain ⟨unmarked, rfl | ⟨rest, rfl⟩⟩ := isUpTo
  · exact ⟨unmarked, .inr ⟨more, rfl⟩⟩
  · exact ⟨unmarked, .inr ⟨rest ++ mark :: more, List.append_assoc _ _ _⟩⟩

/-! ### Blanks -/

theorem eq_false_of_head?_dropWhile {drop : Char → Bool} {text : List Char} {char : Char}
    (first : (text.dropWhile drop).head? = some char) : drop char = false := by
  have stays := List.head?_dropWhile_not drop text
  rwa [first] at stays

/-- A text without the blanks at its ends is what stands between them. -/
theorem trim_append {left middle right : List Char}
    (blankLeft : ∀ char ∈ left, isBlank char = true)
    (blankRight : ∀ char ∈ right, isBlank char = true)
    (visibleStart : ∀ char, middle.head? = some char → isBlank char = false)
    (visibleEnd : ∀ char, middle.getLast? = some char → isBlank char = false) :
    trim (left ++ middle ++ right) = middle := by
  rw [trim, trimEndWhere, List.append_assoc]
  cases middle with
  | nil =>
    have blank : ∀ char ∈ left ++ ([] ++ right), isBlank char = true := by
      intro char member
      rcases List.mem_append.mp member with inLeft | inRight
      · exact blankLeft char inLeft
      · exact blankRight char inRight
    rw [List.dropWhile_eq_nil_iff.mpr blank]
    rfl
  | cons first rest =>
    have stays : ∀ char, (first :: rest ++ right).head? = some char → isBlank char = false :=
      fun char atHead => visibleStart char atHead
    have staysLast : ∀ char, (first :: rest).reverse.head? = some char → isBlank char = false :=
      fun char atHead => visibleEnd char (by rwa [List.head?_reverse] at atHead)
    rw [dropWhile_append_of_head? blankLeft stays, List.reverse_append,
      dropWhile_append_of_head? (fun char member => blankRight char (List.mem_reverse.mp member))
        staysLast, List.reverse_reverse]

/-- Every text is what stands between the blanks at its ends, and these blanks. -/
theorem exists_trim_append (text : List Char) : ∃ left right, text = left ++ trim text ++ right ∧
    (∀ char ∈ left, isBlank char = true) ∧ (∀ char ∈ right, isBlank char = true) ∧
    (∀ char, (trim text).head? = some char → isBlank char = false) ∧
    (∀ char, (trim text).getLast? = some char → isBlank char = false) := by
  have all (list : List Char) : ∀ char ∈ list.takeWhile isBlank, isBlank char = true :=
    List.all_eq_true.mp List.all_takeWhile
  have rest : trim text ++ ((text.dropWhile isBlank).reverse.takeWhile isBlank).reverse =
      text.dropWhile isBlank := by
    rw [trim, trimEndWhere, ← List.reverse_append, List.takeWhile_append_dropWhile,
      List.reverse_reverse]
  refine ⟨text.takeWhile isBlank, ((text.dropWhile isBlank).reverse.takeWhile isBlank).reverse,
    ?_, all text, fun char member => all _ char (List.mem_reverse.mp member), ?_, ?_⟩
  · rw [List.append_assoc, rest, List.takeWhile_append_dropWhile]
  · intro char first
    have start : (text.dropWhile isBlank).head? = some char := by
      rw [← rest, List.head?_append, first]
      rfl
    exact eq_false_of_head?_dropWhile start
  · intro char last
    rw [trim, trimEndWhere, List.getLast?_reverse] at last
    exact eq_false_of_head?_dropWhile last

/-- A text without blanks at its ends. -/
structure IsBare (text : List Char) : Prop where
  start : ∀ char, text.head? = some char → isBlank char = false
  ends : ∀ char, text.getLast? = some char → isBlank char = false

/-- What is left of a text without the blanks at its ends. -/
structure IsCore (text core : List Char) : Prop where
  parts : ∃ left right, text = left ++ core ++ right ∧
    (∀ char ∈ left, isBlank char = true) ∧ ∀ char ∈ right, isBlank char = true
  isBare : IsBare core

theorem trim_eq_iff {text core : List Char} : trim text = core ↔ IsCore text core := by
  constructor
  · rintro rfl
    obtain ⟨left, right, parts, blankLeft, blankRight, start, ends⟩ := exists_trim_append text
    exact ⟨⟨left, right, parts, blankLeft, blankRight⟩, start, ends⟩
  · rintro ⟨⟨left, right, rfl, blankLeft, blankRight⟩, start, ends⟩
    exact trim_append blankLeft blankRight start ends

end MediaTrail
