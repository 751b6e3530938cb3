/-
**Extensions that can be used.** A set of extensions is asked in two ways: a raw text is cut and
lowered before it is looked up, and of a name only what stands behind its last dot. A member of the
set comes through the first unchanged unless it starts with a blank, which is left where dots stood in
front of it, and through the second unless it holds a dot or a slash. So not every member is found
by its own name, and the names of a set need not make the same set.

* `IsMember`: what holds of every member of a set made of raw texts;
* `normalize?_of_isMember`: what becomes of a member that is taken for a raw text;
* `usable_iff`: which members are found, and when the names of a set make it again.
-/

import Mathlib.Algebra.Order.BigOperators.Group.List
import Mathlib.Algebra.Order.Group.Nat
import Mathlib.Data.List.Sort
import MediaTrail.Proofs.MediaMention
import MediaTrail.Proofs.MediaNames

namespace MediaTrail

open Text

/-! ### The ends of a text in lower case -/

theorem lowerBetween_ne_nil (before : List Char) (char : Char) (after : List Char) :
    lowerBetween before char after ≠ [] := by
  rw [lowerBetween]
  split
  · exact List.cons_ne_nil _ _
  · split <;> exact List.cons_ne_nil _ _

/-- A mark at the start of a text in lower case was there before. -/
theorem head?_of_lower {text : List Char} {char : Char} (mark : IsMark char)
    (first : (lower text).head? = some char) : text.head? = some char := by
  cases text with
  | nil => cases first
  | cons start rest =>
    rw [lower, lowerFrom_cons, List.head?_append_of_ne_nil _ (lowerBetween_ne_nil _ _ _)] at first
    exact congrArg some (eq_of_isMark_of_mem_lowerBetween (List.mem_of_head? first) mark).symm

/-- A mark at the end of a text in lower case was there before. -/
theorem getLast?_of_lower {text : List Char} {char : Char} (mark : IsMark char)
    (last : (lower text).getLast? = some char) : text.getLast? = some char := by
  rcases List.eq_nil_or_concat' text with rfl | ⟨front, final, rfl⟩
  · cases last
  · obtain ⟨lowered, parts⟩ := exists_lowerFrom_append [] front [final]
    have ends : lower (front ++ [final]) =
        lowered ++ lowerBetween (front.reverse ++ []) final [] := by
      rw [lower, parts, lowerFrom_cons]
      simp [lowerFrom]
    rw [ends, List.getLast?_append_of_ne_nil _ (lowerBetween_ne_nil _ _ _)] at last
    rw [List.getLast?_concat,
      eq_of_isMark_of_mem_lowerBetween (List.mem_of_getLast? last) mark]

theorem lower_ne_nil {text : List Char} (something : text ≠ []) : lower text ≠ [] := by
  obtain ⟨char, rest, rfl⟩ := List.exists_cons_of_ne_nil something
  rw [lower, lowerFrom_cons]
  exact List.append_ne_nil_of_left_ne_nil (lowerBetween_ne_nil _ _ _) _

/-! ### Members -/

/-- What holds of every member of a set made of raw texts. -/
structure IsMember (name : List Char) : Prop where
  ne_nil : name ≠ []
  low : ∀ char ∈ name, IsLow char
  noDot : name.head? ≠ some '.'
  visibleEnd : ∀ char, name.getLast? = some char → isBlank char = false

theorem isMember_of_mem {raw : List String} {name : String}
    (member : name ∈ (Extensions.ofList raw).names) : IsMember name.toList := by
  obtain ⟨text, -, stands⟩ := Extensions.mem_ofList.mp member
  obtain ⟨left, dots, ext, right, cut, something, rfl⟩ := normalize?_eq_some_iff.mp stands
  rw [String.toList_ofList]
  refine ⟨lower_ne_nil something, fun char member => isLow_of_mem_lower member, ?_, ?_⟩
  · exact fun dot => cut.noDot (head?_of_lower (.inr (.inl rfl)) dot)
  · intro char last
    by_contra blank
    have isBlank := Bool.not_eq_false _ ▸ blank
    have lastOfExt := getLast?_of_lower (.inl isBlank) last
    refine blank (cut.visibleEnd char ?_)
    rw [List.getLast?_append_of_ne_nil _ something, lastOfExt]

/-- What is left of a member that is taken for a raw text. -/
def recut (name : String) : String :=
  String.ofList ((name.toList.dropWhile isBlank).dropWhile (· == '.'))

/-- Whether a member starts with a blank. -/
def StartsBlank (name : String) : Prop :=
  name.toList.head?.any isBlank = true

instance (name : String) : Decidable (StartsBlank name) :=
  inferInstanceAs (Decidable (_ = true))

/-- No blank is cut off the end of a member. -/
theorem trim_of_isMember {name : List Char} (isMember : IsMember name) :
    trim name = name.dropWhile isBlank := by
  have parts := List.takeWhile_append_dropWhile (p := isBlank) (l := name)
  have ends : ∀ char, (name.dropWhile isBlank).getLast? = some char → isBlank char = false := by
    intro char last
    refine isMember.visibleEnd char ?_
    rw [← parts, List.getLast?_append, last]
    rfl
  have trimmed : trim (name.takeWhile isBlank ++ name.dropWhile isBlank ++ []) =
      name.dropWhile isBlank :=
    trim_append (List.all_eq_true.mp List.all_takeWhile) (by simp)
      (fun char first => eq_false_of_head?_dropWhile first) ends
  rwa [List.append_nil, parts] at trimmed

/-- A member that is taken for a raw text loses the blanks in front and the dots behind them. -/
theorem normalize?_of_isMember {name other : String} (isMember : IsMember name.toList) :
    normalize? name = some other ↔ other = recut name ∧ other ≠ "" := by
  have low : ∀ char ∈ (name.toList.dropWhile isBlank).dropWhile (· == '.'), IsLow char :=
    fun char member => isMember.low char
      ((List.dropWhile_sublist _).subset ((List.dropWhile_sublist _).subset member))
  rw [normalize?, trim_of_isMember isMember, recut]
  cases cut : (name.toList.dropWhile isBlank).dropWhile (· == '.') with
  | nil =>
    refine iff_of_false (by simp) fun made => made.2 ?_
    rw [made.1]
  | cons char rest =>
    rw [cut] at low
    show some (String.ofList (lower (char :: rest))) = some other ↔ _
    rw [lower_of_isLow low, Option.some.injEq]
    refine ⟨fun same => ⟨same.symm, fun empty => ?_⟩, fun same => same.1.symm⟩
    exact absurd (congrArg String.toList (same.trans empty)) (by rw [String.toList_ofList]; simp)

/-- A member that does not start with a blank is left as it is. -/
theorem recut_of_not_startsBlank {name : String} (isMember : IsMember name.toList)
    (visible : ¬ StartsBlank name) : recut name = name := by
  obtain ⟨char, rest, chars⟩ := List.exists_cons_of_ne_nil isMember.ne_nil
  have notBlank : ¬ isBlank char = true := by
    intro blank
    exact visible (by rw [StartsBlank, chars]; exact blank)
  have notDot : ¬ (char == '.') = true := by
    intro dot
    exact isMember.noDot (by rw [chars, beq_iff_eq.mp dot]; rfl)
  rw [recut, chars, List.dropWhile_cons_of_neg notBlank,
    List.dropWhile_cons_of_neg (p := (· == '.')) notDot, ← chars, String.ofList_toList]

/-- What is left of a member that starts with a blank is shorter. -/
theorem length_recut_of_startsBlank {name : String} (startsBlank : StartsBlank name) :
    (recut name).toList.length < name.toList.length := by
  cases chars : name.toList with
  | nil =>
    rw [StartsBlank, chars] at startsBlank
    cases startsBlank
  | cons char rest =>
    rw [StartsBlank, chars] at startsBlank
    have blank : isBlank char = true := startsBlank
    rw [recut, String.toList_ofList, chars, List.dropWhile_cons_of_pos blank]
    have first := (List.dropWhile_sublist (l := rest) isBlank).length_le
    have second := (List.dropWhile_sublist (l := rest.dropWhile isBlank) (· == '.')).length_le
    rw [List.length_cons]
    omega

theorem contains_iff (extensions : Extensions) (raw : String) : extensions.contains raw = true ↔
    ∃ name, normalize? raw = some name ∧ name ∈ extensions.names := by
  rw [Extensions.contains]
  cases normalize? raw <;> simp

/-! ### Names of a set that make the same set -/

theorem eq_iff_of_names {extensions other : Extensions} :
    extensions = other ↔ ∀ name, name ∈ extensions.names ↔ name ∈ other.names := by
  refine ⟨fun same name => same ▸ Iff.rfl, fun alike => ?_⟩
  obtain ⟨names, sorted⟩ := extensions
  obtain ⟨names', sorted'⟩ := other
  obtain rfl : names = names' := List.Pairwise.eq_of_mem_iff sorted sorted' alike
  rfl

/-- Members that start with a blank make longer and longer ones, if each is made again. -/
theorem exists_longer {raw : List String}
    (again : ∀ name ∈ (Extensions.ofList raw).names, ∃ text ∈ (Extensions.ofList raw).names,
      normalize? text = some name) {name : String} (member : name ∈ (Extensions.ofList raw).names)
    (startsBlank : StartsBlank name) : ∃ longer ∈ (Extensions.ofList raw).names,
      StartsBlank longer ∧ name.toList.length < longer.toList.length := by
  obtain ⟨text, inNames, stands⟩ := again name member
  have isMember := isMember_of_mem inNames
  obtain ⟨rfl, -⟩ := (normalize?_of_isMember isMember).mp stands
  have textBlank : StartsBlank text := by
    by_contra visible
    exact visible (recut_of_not_startsBlank isMember visible ▸ startsBlank)
  exact ⟨text, inNames, textBlank, length_recut_of_startsBlank textBlank⟩

/-- **The names of a set make the same set** exactly when none of them starts with a blank. -/
theorem ofList_names_eq_iff (raw : List String) :
    Extensions.ofList (Extensions.ofList raw).names = Extensions.ofList raw ↔
      ∀ name ∈ (Extensions.ofList raw).names, ¬ StartsBlank name := by
  rw [eq_iff_of_names]
  constructor
  · intro alike name member startsBlank
    have again := fun name member => Extensions.mem_ofList.mp ((alike name).mpr member)
    have unbounded : ∀ bound, ∃ longer ∈ (Extensions.ofList raw).names,
        StartsBlank longer ∧ bound ≤ longer.toList.length := by
      intro bound
      induction bound with
      | zero => exact ⟨name, member, startsBlank, Nat.zero_le _⟩
      | succ bound ih =>
        obtain ⟨long, inNames, longBlank, atLeast⟩ := ih
        obtain ⟨longer, inNames', longerBlank, longerThan⟩ := exists_longer again inNames longBlank
        exact ⟨longer, inNames', longerBlank, by omega⟩
    obtain ⟨longer, inNames, -, atLeast⟩ :=
      unbounded (((Extensions.ofList raw).names.map fun name => name.toList.length).sum + 1)
    have bounded := List.le_sum_of_mem (List.mem_map_of_mem
      (f := fun name : String => name.toList.length) inNames)
    omega
  · intro visible name
    have kept {text : String} (member : text ∈ (Extensions.ofList raw).names) :
        recut text = text := recut_of_not_startsBlank (isMember_of_mem member) (visible text member)
    rw [Extensions.mem_ofList]
    constructor
    · rintro ⟨text, member, stands⟩
      obtain ⟨rfl, -⟩ := (normalize?_of_isMember (isMember_of_mem member)).mp stands
      exact (kept member).symm ▸ member
    · intro member
      have isMember := isMember_of_mem member
      refine ⟨name, member, (normalize?_of_isMember isMember).mpr ⟨(kept member).symm, ?_⟩⟩
      rintro rfl
      exact isMember.ne_nil rfl

/-! ### Files that are named by a member -/

/-- What stands behind the last dot of a name that is made of a stem, a dot and a text. -/
theorem extension?_append_iff {stem name ext : List Char} :
    extension? (stem ++ '.' :: name) = some ext ↔
      '.' :: ext <:+ '.' :: name ∧ IsExtension ext := by
  rw [extension?_eq_some_iff]
  refine and_congr_left fun isExtension => ?_
  constructor
  · rintro ⟨front, parts⟩
    have suffix : '.' :: ext <:+ stem ++ '.' :: name := ⟨front, parts.symm⟩
    rcases List.suffix_or_suffix_of_suffix suffix (List.suffix_append stem _) with within | beyond
    · exact within
    · obtain ⟨more, ends⟩ := beyond
      cases more with
      | nil => exact ends ▸ List.suffix_rfl
      | cons char more =>
        rw [List.cons_append, List.cons.injEq] at ends
        exact absurd (ends.2 ▸ by simp) isExtension.noDot
  · rintro ⟨front, ends⟩
    exact ⟨stem ++ front, by rw [List.append_assoc, ends]⟩

/-- A file named by a member, in either case, is a media file exactly when a member without dots and
slashes ends it. -/
theorem isMedia_clip_iff {raw : List String} {name variant : String}
    (member : name ∈ (Extensions.ofList raw).names)
    (same : SameLetters name.toList variant.toList) :
    (Extensions.ofList raw).isMedia ("clip." ++ variant) = true ↔
      ∃ other ∈ (Extensions.ofList raw).names,
        IsExtension other.toList ∧ '.' :: other.toList <:+ '.' :: name.toList := by
  have stem (text : String) : ("clip." ++ text).toList = "clip".toList ++ '.' :: text.toList := by
    rw [String.toList_append]
    rfl
  have sameName : SameLetters ("clip." ++ name).toList ("clip." ++ variant).toList := by
    rw [stem, stem, SameLetters, List.map_append, List.map_append, List.map_cons, List.map_cons, same]
  have eitherCase : (Extensions.ofList raw).isMedia ("clip." ++ variant) = true ↔
      (Extensions.ofList raw).isMedia ("clip." ++ name) = true :=
    ⟨isMedia_of_sameLetters sameName.symm fun _ member => member,
      isMedia_of_sameLetters sameName fun _ member => member⟩
  have lowEnd {ext : List Char} (ends : '.' :: ext <:+ '.' :: name.toList) : lower ext = ext := by
    have within : ext <:+ name.toList := by
      obtain ⟨front, parts⟩ := ends
      cases front with
      | nil => exact (List.cons.inj parts).2 ▸ List.suffix_rfl
      | cons char front =>
        exact ⟨front ++ ['.'], by rw [List.append_assoc]; exact (List.cons.inj parts).2⟩
    exact lower_of_isLow fun char inExt => (isMember_of_mem member).low char (within.subset inExt)
  rw [eitherCase, isMedia_iff, stem]
  simp only [extension?_append_iff]
  constructor
  · rintro ⟨ext, ⟨ends, isExtension⟩, inNames⟩
    rw [lowEnd ends] at inNames
    exact ⟨_, inNames, by rwa [String.toList_ofList], by rwa [String.toList_ofList]⟩
  · rintro ⟨other, inNames, isExtension, ends⟩
    exact ⟨other.toList, ⟨ends, isExtension⟩, by rwa [lowEnd ends, String.ofList_toList]⟩

/-! ### What can be used -/

/-- **Which members can be used.** A member is found by its own name exactly when it does not start
with a blank, or what is left of it is a member as well. A file named by it, in any case of its
letters, is a media file exactly when a member without dots and slashes ends it, which is the member
itself if it has none. The names of a set make the same set exactly when none starts with a blank. -/
theorem usable_iff (raw : List String) :
    (∀ name ∈ (Extensions.ofList raw).names,
      ((Extensions.ofList raw).contains name = true ↔
        ¬ StartsBlank name ∨ recut name ∈ (Extensions.ofList raw).names) ∧
      (∀ variant : String, SameLetters name.toList variant.toList →
        ((Extensions.ofList raw).isMedia ("clip." ++ variant) = true ↔
          ∃ other ∈ (Extensions.ofList raw).names,
            IsExtension other.toList ∧ '.' :: other.toList <:+ '.' :: name.toList))) ∧
    (Extensions.ofList (Extensions.ofList raw).names = Extensions.ofList raw ↔
      ∀ name ∈ (Extensions.ofList raw).names, ¬ StartsBlank name) := by
  refine ⟨fun name member => ⟨?_, fun variant same => isMedia_clip_iff member same⟩,
    ofList_names_eq_iff raw⟩
  have isMember := isMember_of_mem member
  rw [contains_iff]
  simp only [normalize?_of_isMember isMember]
  constructor
  · rintro ⟨_, ⟨rfl, -⟩, inNames⟩
    exact .inr inNames
  · rintro (visible | inNames)
    · refine ⟨name, ⟨(recut_of_not_startsBlank isMember visible).symm, ?_⟩, member⟩
      rintro rfl
      exact isMember.ne_nil rfl
    · refine ⟨_, ⟨rfl, fun empty => ?_⟩, inNames⟩
      rw [empty] at inNames
      exact (isMember_of_mem inNames).ne_nil rfl

/-- A member that starts with a blank, found because what is left of it is a member, and another one
in capital letters. The member with a blank keeps the names from making the same set. -/
theorem usable_beside_blank_member :
    (Extensions.ofList ["MP4", ". mp4"]).contains " mp4" = true ∧
      (Extensions.ofList ["MP4", ". mp4"]).isMedia ("clip." ++ "Mp4") = true ∧
      Extensions.ofList (Extensions.ofList ["MP4", ". mp4"]).names ≠
        Extensions.ofList ["MP4", ". mp4"] := by
  have blank : " mp4" ∈ (Extensions.ofList ["MP4", ". mp4"]).names := by decide +kernel
  have plain : "mp4" ∈ (Extensions.ofList ["MP4", ". mp4"]).names := by decide +kernel
  obtain ⟨members, again⟩ := usable_iff ["MP4", ". mp4"]
  refine ⟨(members _ blank).1.mpr (.inr plain), ?_, fun same => again.mp same _ blank (by decide)⟩
  exact ((members _ plain).2 "Mp4" (by decide)).mpr ⟨_, plain, by decide, List.suffix_rfl⟩

/-- Dots in front of a blank make a member that is not found by its own name. -/
theorem not_all_usable : ¬ ∀ raw : List String,
    (∀ name ∈ (Extensions.ofList raw).names, (Extensions.ofList raw).contains name = true ∧
      ∀ variant : String, SameLetters name.toList variant.toList →
        (Extensions.ofList raw).isMedia ("clip." ++ variant) = true) ∧
    Extensions.ofList (Extensions.ofList raw).names = Extensions.ofList raw := by
  intro usable
  have blank : " mp4" ∈ (Extensions.ofList [". mp4"]).names := by decide +kernel
  have found := ((usable [". mp4"]).1 " mp4" blank).1
  have missed : (Extensions.ofList [". mp4"]).contains " mp4" = false := by decide +kernel
  rw [missed] at found
  cases found

end MediaTrail
