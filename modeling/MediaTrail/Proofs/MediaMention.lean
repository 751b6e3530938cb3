/-
**Mentions of media files.** A line is searched in lower case for a dot and an extension, while a name
is taken apart first and only its extension is lowered. Lowering is not done letter by letter: what
a capital sigma becomes depends on its neighbours. An extension of the first 128 characters holds no
such letter, so that it looks the same wherever its name stands.

* `lowerFrom_append_of_ascii`: what is lowered to the first 128 characters is lowered to the same
  anywhere;
* `mentioned_of_isMedia`: a line mentions every media file that it names in front of a blank, a query
  or a closing bracket.
-/

import Mathlib.Data.List.Basic
import MediaTrail.Line

namespace MediaTrail

open Text

def isAscii (char : Char) : Bool := char.toNat < 0x80

/-- All members of a set are made of the first 128 characters. -/
def Extensions.IsAscii (extensions : Extensions) : Prop :=
  ∀ name ∈ extensions.names, ∀ char ∈ name.toList, isAscii char = true

instance (extensions : Extensions) : Decidable extensions.IsAscii :=
  decidable_of_iff (extensions.names.all (fun name => name.toList.all isAscii) = true) (by
    simp only [Extensions.IsAscii, List.all_eq_true])

/-! ### Lowering in context -/

/-- A character that is lowered to the first 128 in one place is lowered to the same in any other. -/
theorem lowerBetween_of_ascii {before after : List Char} {char : Char}
    (ascii : ∀ lowered ∈ lowerBetween before char after, isAscii lowered = true)
    (before' after' : List Char) :
    lowerBetween before' char after' = lowerBetween before char after := by
  by_cases dotted : char = 'İ'
  · subst dotted
    exact absurd (ascii '\u0307' (by simp [lowerBetween])) (by decide)
  · by_cases sigma : char = 'Σ'
    · subst sigma
      by_cases final : endsWord before after = true
      · exact absurd (ascii 'ς' (by simp [lowerBetween, final])) (by decide)
      · exact absurd (ascii 'σ' (by simp [lowerBetween, final])) (by decide)
    · rw [lowerBetween, lowerBetween, if_neg dotted, if_neg dotted, if_neg sigma, if_neg sigma]

/-- The lower case of a text that starts with another one ends as that of the rest. -/
theorem exists_lowerFrom_append (before left right : List Char) :
    ∃ lowered, lowerFrom before [] (left ++ right) =
      lowered ++ lowerFrom (left.reverse ++ before) [] right := by
  induction left generalizing before with
  | nil => exact ⟨[], rfl⟩
  | cons char rest ih =>
    obtain ⟨lowered, parts⟩ := ih (char :: before)
    refine ⟨lowerBetween before char (rest ++ right) ++ lowered, ?_⟩
    rw [List.cons_append, lowerFrom_cons, parts]
    simp

/-- **What is lowered to the first 128 characters is lowered to the same anywhere.** -/
theorem lowerFrom_append_of_ascii {before text : List Char}
    (ascii : ∀ lowered ∈ lowerFrom before [] text, isAscii lowered = true)
    (before' right : List Char) :
    lowerFrom before' [] (text ++ right) =
      lowerFrom before [] text ++ lowerFrom (text.reverse ++ before') [] right := by
  induction text generalizing before before' with
  | nil => rfl
  | cons char rest ih =>
    rw [lowerFrom_cons] at ascii ⊢
    have here : ∀ lowered ∈ lowerBetween before char rest, isAscii lowered = true :=
      fun lowered member => ascii lowered (List.mem_append_left _ member)
    have later : ∀ lowered ∈ lowerFrom (char :: before) [] rest, isAscii lowered = true :=
      fun lowered member => ascii lowered (List.mem_append_right _ member)
    rw [List.cons_append, lowerFrom_cons, lowerBetween_of_ascii here, ih later]
    simp

/-! ### Names and their extensions -/

/-- What stands behind the last dot stands behind a dot. -/
theorem eq_append_of_extension? {path extension : List Char}
    (found : extension? path = some extension) : ∃ front, path = front ++ '.' :: extension := by
  rw [extension?] at found
  have parts := List.takeWhile_append_dropWhile (p := fun char => char != '.' && char != '/')
    (l := path.reverse)
  split at found
  · rename_i char rest more taken dropped
    rw [taken, dropped] at parts
    refine ⟨more.reverse, ?_⟩
    rw [← Option.some.inj found, ← List.reverse_reverse path, ← parts]
    simp
  · cases found

/-- A media file is named by some text, a dot and an extension whose lower case is a member. -/
theorem exists_extension_of_isMedia {extensions : Extensions} {name : String}
    (isMedia : extensions.isMedia name = true) : ∃ front extension,
      name.toList = front ++ '.' :: extension ∧
        String.ofList (lower extension) ∈ extensions.names := by
  rw [Extensions.isMedia] at isMedia
  split at isMedia
  · rename_i extension found
    obtain ⟨front, parts⟩ := eq_append_of_extension? found
    exact ⟨front, extension, parts, List.contains_iff_mem.mp isMedia⟩
  · cases isMedia

/-! ### Mentions -/

/-- Whether a character stays in lower case what it is, and can follow an extension: a blank, the mark
of a query or a closing bracket. -/
def EndsName (char : Char) : Prop := char = ' ' ∨ char = '?' ∨ char = ']'

theorem lowerBetween_of_endsName {char : Char} (ends : EndsName char) (before after : List Char) :
    lowerBetween before char after = [char] := by
  rcases ends with rfl | rfl | rfl <;> rfl

theorem endsExtension_of_endsName {char : Char} (ends : EndsName char) (rest : List Char) :
    endsExtension (char :: rest) = true := by
  rcases ends with rfl | rfl | rfl <;> rfl

/-- A dot and a member are a mention in front of whatever can follow an extension. -/
theorem mentionsHere_of_mem {names : List (List Char)} {name after : List Char}
    (member : name ∈ names) (ends : endsExtension after = true) :
    mentionsHere names ('.' :: (name ++ after)) = true := by
  have isStart : name.isPrefixOf? (name ++ after) = some after :=
    List.isPrefixOf?_eq_some_iff_append_eq.mpr rfl
  rw [mentionsHere, List.any_eq_true]
  exact ⟨name, member, by rw [isStart]; exact ends⟩

/-- **A line mentions the media files that it names.** -/
theorem mentioned_of_isMedia {extensions : Extensions} (ascii : extensions.IsAscii) {name : String}
    (isMedia : extensions.isMedia name = true) {line : String} {left right : List Char} {next : Char}
    (ends : EndsName next) (parts : line.toList = left ++ (name.toList ++ next :: right)) :
    extensions.mentioned line = true := by
  obtain ⟨front, extension, nameParts, member⟩ := exists_extension_of_isMedia isMedia
  have lowered : ∀ char ∈ lower extension, isAscii char = true := by
    intro char inLowered
    exact ascii _ member char (by rw [String.toList_ofList]; exact inLowered)
  have lineParts : line.toList = (left ++ front) ++ '.' :: (extension ++ next :: right) := by
    rw [parts, nameParts]
    simp
  obtain ⟨before, split⟩ := exists_lowerFrom_append [] (left ++ front)
    ('.' :: (extension ++ next :: right))
  have dot : ∀ before after, lowerBetween before '.' after = ['.'] := fun _ _ => rfl
  have here : lower line.toList = before ++ '.' :: (lower extension ++ next ::
      lowerFrom (next :: (extension.reverse ++ '.' :: ((left ++ front).reverse ++ []))) [] right) := by
    rw [lower, lineParts, split, lowerFrom_cons, dot, List.singleton_append,
      lowerFrom_append_of_ascii lowered, lowerFrom_cons, lowerBetween_of_endsName ends]
    rfl
  rw [Extensions.mentioned, occurs_iff, here]
  refine ⟨_, List.suffix_append _ _, ?_⟩
  refine mentionsHere_of_mem (List.mem_map.mpr ⟨_, member, ?_⟩) (endsExtension_of_endsName ends _)
  rw [String.toList_ofList]

end MediaTrail
