/-
**Which names are media files.** A name is a media file when what stands behind its last dot, in the
last segment, has the lower case of a raw extension without its blanks and leading dots. Both are cut
out before they are lowered, so what counts of either is the cut and not the case of its letters, and
of a list of raw extensions what counts is which of them it holds.

* `extension?_eq_some_iff`: the extension of a name, by what stands around it;
* `normalize?_eq_some_iff`: the member that a raw text stands for, by what it is cut out of;
* `isMedia_by_extension`: which names are media files, and what does not matter for it.
-/

import Mathlib.Data.List.TakeWhile
import MediaTrail.Extensions
import MediaTrail.Proofs.LowerCase
import MediaTrail.Proofs.TextParts

namespace MediaTrail

open Text

/-! ### The extension of a name -/

/-- Whether a text can stand behind the last dot of the last segment of a path. -/
structure IsExtension (text : List Char) : Prop where
  ne_nil : text ≠ []
  noDot : '.' ∉ text
  noSlash : '/' ∉ text

instance (text : List Char) : Decidable (IsExtension text) :=
  decidable_of_iff (text ≠ [] ∧ '.' ∉ text ∧ '/' ∉ text)
    ⟨fun parts => ⟨parts.1, parts.2.1, parts.2.2⟩, fun ext => ⟨ext.1, ext.2, ext.3⟩⟩

theorem IsExtension.inside {text : List Char} (isExtension : IsExtension text) :
    ∀ char ∈ text.reverse, (char != '.' && char != '/') = true := by
  intro char member
  have inText := List.mem_reverse.mp member
  simp only [Bool.and_eq_true, bne_iff_ne]
  exact ⟨fun dot => isExtension.noDot (dot ▸ inText), fun slash => isExtension.noSlash (slash ▸ inText)⟩

/-- The extension of a path is what a dot separates from the rest, without a dot or a slash. -/
theorem extension?_eq_some_iff {path ext : List Char} :
    extension? path = some ext ↔ (∃ front, path = front ++ '.' :: ext) ∧ IsExtension ext := by
  constructor
  · intro found
    rw [extension?] at found
    have parts := List.takeWhile_append_dropWhile (p := fun char => char != '.' && char != '/')
      (l := path.reverse)
    have inside := List.all_takeWhile (p := fun char => char != '.' && char != '/')
      (l := path.reverse)
    split at found
    · rename_i char rest more taken dropped
      rw [taken, dropped] at parts
      rw [taken, List.all_eq_true] at inside
      have apart : ∀ other ∈ (char :: rest).reverse, other ≠ '.' ∧ other ≠ '/' := by
        intro other member
        simpa using inside other (List.mem_reverse.mp member)
      obtain rfl := Option.some.inj found
      refine ⟨⟨more.reverse, ?_⟩, by simp, fun dot => (apart _ dot).1 rfl,
        fun slash => (apart _ slash).2 rfl⟩
      rw [← List.reverse_reverse path, ← parts]
      simp
    · cases found
  · rintro ⟨⟨front, rfl⟩, isExtension⟩
    have reversed : (front ++ '.' :: ext).reverse = ext.reverse ++ '.' :: front.reverse := by simp
    have inside := isExtension.inside
    obtain ⟨last, rest, backwards⟩ : ∃ last rest, ext.reverse = last :: rest :=
      List.exists_cons_of_ne_nil (by simpa using isExtension.ne_nil)
    rw [extension?, reversed, List.takeWhile_append_of_pos inside,
      List.dropWhile_append_of_pos inside, List.takeWhile_cons_of_neg (by decide),
      List.dropWhile_cons_of_neg (by decide), List.append_nil, backwards]
    show some (last :: rest).reverse = some ext
    rw [← backwards, List.reverse_reverse]

/-! ### The member that a raw text stands for -/

/-- A raw text taken apart: blanks, dots, an extension, and blanks. What stands between the blanks
neither starts nor ends with one, and the extension does not start with a dot. -/
structure IsCut (text left dots ext right : List Char) : Prop where
  parts : text = left ++ (dots ++ ext) ++ right
  blankLeft : ∀ char ∈ left, isBlank char = true
  blankRight : ∀ char ∈ right, isBlank char = true
  visibleStart : ∀ char, (dots ++ ext).head? = some char → isBlank char = false
  visibleEnd : ∀ char, (dots ++ ext).getLast? = some char → isBlank char = false
  onlyDots : ∀ char ∈ dots, char = '.'
  noDot : ext.head? ≠ some '.'

/-- What the blanks leave, then what the dots leave, is the extension. -/
theorem IsCut.dropWhile_trim {text left dots ext right : List Char}
    (cut : IsCut text left dots ext right) : (trim text).dropWhile (· == '.') = ext := by
  rw [cut.parts, trim_append cut.blankLeft cut.blankRight cut.visibleStart cut.visibleEnd]
  refine dropWhile_append_of_head? (fun char member => beq_iff_eq.mpr (cut.onlyDots char member))
    fun char first => beq_eq_false_iff_ne.mpr fun dot => cut.noDot (dot ▸ first)

/-- Every text can be taken apart. -/
theorem exists_isCut (text : List Char) :
    ∃ left dots right, IsCut text left dots ((trim text).dropWhile (· == '.')) right := by
  obtain ⟨left, right, parts, blankLeft, blankRight, visibleStart, visibleEnd⟩ :=
    exists_trim_append text
  have middle := List.takeWhile_append_dropWhile (p := (· == '.')) (l := trim text)
  refine ⟨left, (trim text).takeWhile (· == '.'), right, ?_, blankLeft, blankRight, ?_, ?_, ?_, ?_⟩
  · rw [middle, ← parts]
  · rwa [middle]
  · rwa [middle]
  · exact fun char member => beq_iff_eq.mp (List.all_eq_true.mp List.all_takeWhile char member)
  · exact fun dot => absurd (eq_false_of_head?_dropWhile dot) (by decide)

/-- **The member that a raw text stands for** is what is cut out of it, in lower case. -/
theorem normalize?_eq_some_iff {raw name : String} : normalize? raw = some name ↔
    ∃ left dots ext right, IsCut raw.toList left dots ext right ∧ ext ≠ [] ∧
      name = String.ofList (lower ext) := by
  constructor
  · intro stands
    obtain ⟨left, dots, right, cut⟩ := exists_isCut raw.toList
    refine ⟨left, dots, _, right, cut, ?_⟩
    rw [normalize?] at stands
    split at stands
    · cases stands
    · rename_i char rest same
      rw [same]
      exact ⟨List.cons_ne_nil _ _, (Option.some.inj stands).symm⟩
  · rintro ⟨left, dots, ext, right, cut, something, rfl⟩
    obtain ⟨char, rest, rfl⟩ := List.exists_cons_of_ne_nil something
    rw [normalize?, cut.dropWhile_trim]

/-! ### Names and raw texts in either case -/

/-- A raw text in either case stands for the same member. -/
theorem normalize?_congr {raw other : String} (same : SameLetters raw.toList other.toList) :
    normalize? raw = normalize? other := by
  have alike (char char' : Char) (same : char.toLower = char'.toLower) :
      (char == '.') = (char' == '.') := by
    rw [Bool.eq_iff_iff, beq_iff_eq, beq_iff_eq]
    exact (isMark_congr same).2.1
  have sameCut := same.trim.dropWhile alike
  have sameLower := lower_congr sameCut
  rw [normalize?, normalize?]
  cases cut : (Text.trim raw.toList).dropWhile (· == '.') with
  | nil =>
    rw [cut] at sameCut
    rw [List.map_eq_nil_iff.mp sameCut.symm]
  | cons char rest =>
    rw [cut] at sameCut sameLower
    obtain ⟨char', rest', cutToo, -⟩ := List.map_eq_cons_iff.mp sameCut.symm
    rw [cutToo] at sameLower ⊢
    show some (String.ofList (lower (char :: rest))) = some (String.ofList (lower (char' :: rest')))
    rw [sameLower]

theorem IsExtension.congr {ext other : List Char} (same : SameLetters ext other)
    (isExtension : IsExtension ext) : IsExtension other := by
  have origin (char : Char) (member : char ∈ other) : ∃ char' ∈ ext, char'.toLower = char.toLower :=
    List.mem_map.mp (same ▸ List.mem_map_of_mem member)
  refine ⟨fun empty => isExtension.ne_nil ?_, fun dot => ?_, fun slash => ?_⟩
  · rw [empty] at same
    exact List.map_eq_nil_iff.mp same
  · obtain ⟨char, member, alike⟩ := origin _ dot
    exact isExtension.noDot ((isMark_congr alike).2.1.mpr rfl ▸ member)
  · obtain ⟨char, member, alike⟩ := origin _ slash
    exact isExtension.noSlash ((isMark_congr alike).2.2.mpr rfl ▸ member)

/-- A path in either case has the same extension, in either case. -/
theorem exists_extension?_congr {path other ext : List Char} (same : SameLetters path other)
    (found : extension? path = some ext) :
    ∃ ext', extension? other = some ext' ∧ SameLetters ext ext' := by
  obtain ⟨⟨front, rfl⟩, isExtension⟩ := extension?_eq_some_iff.mp found
  rw [SameLetters, List.map_append, List.map_cons] at same
  obtain ⟨front', tail, rfl, -, tailSame⟩ := List.map_eq_append_iff.mp same.symm
  obtain ⟨char, ext', rfl, dot, sameExt⟩ := List.map_eq_cons_iff.mp tailSame
  obtain rfl := (isMark_congr dot).2.1.mpr rfl
  exact ⟨ext', extension?_eq_some_iff.mpr ⟨⟨front', rfl⟩, isExtension.congr sameExt.symm⟩,
    sameExt.symm⟩

/-! ### Which names are media files -/

theorem isMedia_iff (extensions : Extensions) (name : String) : extensions.isMedia name = true ↔
    ∃ ext, extension? name.toList = some ext ∧ String.ofList (lower ext) ∈ extensions.names := by
  rw [Extensions.isMedia]
  cases found : extension? name.toList with
  | none => simp
  | some ext => simp

/-- Names in either case are both media files, or neither is, in sets with the same members. -/
theorem isMedia_of_sameLetters {extensions other : Extensions} {name name' : String}
    (sameName : SameLetters name.toList name'.toList)
    (subset : ∀ member ∈ extensions.names, member ∈ other.names)
    (isMedia : extensions.isMedia name = true) : other.isMedia name' = true := by
  obtain ⟨ext, found, member⟩ := (isMedia_iff _ _).mp isMedia
  obtain ⟨ext', found', same⟩ := exists_extension?_congr sameName found
  exact (isMedia_iff _ _).mpr ⟨ext', found', lower_congr same ▸ subset _ member⟩

/-- Raw texts that are all found in another list, in either case, stand for members of its set. -/
theorem ofList_subset {raw other : List String}
    (found : ∀ text ∈ raw, ∃ text' ∈ other, SameLetters text.toList text'.toList) :
    ∀ member ∈ (Extensions.ofList raw).names, member ∈ (Extensions.ofList other).names := by
  intro member inRaw
  obtain ⟨text, inList, stands⟩ := Extensions.mem_ofList.mp inRaw
  obtain ⟨text', inOther, same⟩ := found text inList
  exact Extensions.mem_ofList.mpr ⟨text', inOther, normalize?_congr same ▸ stands⟩

/-- **A name is a media file by its extension.** It is one exactly when a dot separates an extension
from the rest of it whose lower case is that of what is cut out of one of the raw texts. Neither the
case of the letters of the name and the raw texts counts, nor the order and the repetition of these. -/
theorem isMedia_by_extension (raw : List String) (name : String) :
    ((Extensions.ofList raw).isMedia name = true ↔
      ∃ front ext, name.toList = front ++ '.' :: ext ∧ IsExtension ext ∧
        ∃ text ∈ raw, ∃ left dots core right, IsCut text.toList left dots core right ∧
          core ≠ [] ∧ lower core = lower ext) ∧
    ∀ (raw' : List String) (name' : String), SameLetters name.toList name'.toList →
      (∀ text ∈ raw, ∃ text' ∈ raw', SameLetters text.toList text'.toList) →
      (∀ text' ∈ raw', ∃ text ∈ raw, SameLetters text'.toList text.toList) →
      (Extensions.ofList raw').isMedia name' = (Extensions.ofList raw).isMedia name := by
  constructor
  · rw [isMedia_iff]
    constructor
    · rintro ⟨ext, found, member⟩
      obtain ⟨⟨front, parts⟩, isExtension⟩ := extension?_eq_some_iff.mp found
      obtain ⟨text, inRaw, stands⟩ := Extensions.mem_ofList.mp member
      obtain ⟨left, dots, core, right, cut, something, same⟩ := normalize?_eq_some_iff.mp stands
      exact ⟨front, ext, parts, isExtension, text, inRaw, left, dots, core, right, cut, something,
        (String.ofList_injective same).symm⟩
    · rintro ⟨front, ext, parts, isExtension, text, inRaw, left, dots, core, right, cut, something,
        same⟩
      refine ⟨ext, extension?_eq_some_iff.mpr ⟨⟨front, parts⟩, isExtension⟩,
        Extensions.mem_ofList.mpr ⟨text, inRaw, normalize?_eq_some_iff.mpr ?_⟩⟩
      exact ⟨left, dots, core, right, cut, something, by rw [same]⟩
  · intro raw' name' sameName there back
    rw [Bool.eq_iff_iff]
    exact ⟨isMedia_of_sameLetters sameName.symm (ofList_subset back),
      isMedia_of_sameLetters sameName (ofList_subset there)⟩

/-- A name and its set of extensions, and both again in another case and order. -/
theorem isMedia_clip : (Extensions.ofList ["MP4", " ..mkv"]).isMedia "a.b/Clip.mKv" = true ∧
    (Extensions.ofList [" ..MKV", "mp4", " ..mkv"]).isMedia "A.b/clip.MKV" =
      (Extensions.ofList ["MP4", " ..mkv"]).isMedia "a.b/Clip.mKv" := by
  have cut : IsCut " ..mkv".toList [' '] ['.', '.'] ['m', 'k', 'v'] [] := {
    parts := rfl
    blankLeft := List.forall_mem_singleton.mpr (by decide)
    blankRight := fun _ member => nomatch member
    visibleStart := fun _ first => Option.some.inj first ▸ by decide
    visibleEnd := fun _ last => Option.some.inj last ▸ by decide
    onlyDots := by simp
    noDot := by decide }
  constructor
  · exact (isMedia_by_extension _ _).1.mpr ⟨"a.b/Clip".toList, "mKv".toList, rfl, by decide, _,
      List.mem_cons_of_mem _ List.mem_cons_self, _, _, _, _, cut, by decide, by decide⟩
  · exact (isMedia_by_extension _ _).2 _ _ (by decide) (by decide) (by decide)

end MediaTrail
