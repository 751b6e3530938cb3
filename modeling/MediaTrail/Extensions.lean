/-
**File-name extensions.** The set of extensions that mark a media file. Its members are kept in
lower case, without the dot, in ascending order, so that two sets with the same members are equal.

* `normalize?`: the member that a raw text stands for;
* `extension?`: what stands behind the last dot of the last segment of a path;
* `Extensions.isMedia`: whether a path ends in a member;
* `mem_ofList`: the members of a set built from raw texts.
-/

import MediaTrail.Text.Blank
import MediaTrail.Text.Lower

namespace MediaTrail

open Text

/-- The member that a raw text stands for: without blanks around it and dots in front, in lower
case. Nothing is left of a text of blanks and dots. -/
def normalize? (raw : String) : Option String :=
  match (trim raw.toList).dropWhile (· == '.') with
  | [] => none
  | char :: rest => some (String.ofList (lower (char :: rest)))

/-- What stands behind the last dot of the last segment of a path, if anything does. -/
def extension? (path : List Char) : Option (List Char) :=
  let inside (char : Char) : Bool := char != '.' && char != '/'
  match path.reverse.takeWhile inside, path.reverse.dropWhile inside with
  | char :: rest, '.' :: _ => some (char :: rest).reverse
  | _, _ => none

/-- Puts a name into an ascending list, once. -/
def insertName (name : String) : List String → List String
  | [] => [name]
  | first :: rest =>
    if name < first then name :: first :: rest
    else if name = first then first :: rest
    else first :: insertName name rest

theorem mem_insertName {name other : String} {names : List String} :
    other ∈ insertName name names ↔ other = name ∨ other ∈ names := by
  induction names with
  | nil => simp [insertName]
  | cons first rest ih =>
    unfold insertName
    split
    · simp
    · split
      · rename_i equal
        simp [equal]
      · simp only [List.mem_cons, ih]
        constructor
        · rintro (isFirst | isName | inRest) <;> simp_all
        · rintro (isName | isFirst | inRest) <;> simp_all

theorem pairwise_insertName {name : String} {names : List String}
    (sorted : names.Pairwise (· < ·)) : (insertName name names).Pairwise (· < ·) := by
  induction names with
  | nil => simp [insertName]
  | cons first rest ih =>
    obtain ⟨above, sortedRest⟩ := List.pairwise_cons.mp sorted
    unfold insertName
    split
    · rename_i below
      refine List.pairwise_cons.mpr ⟨fun other member => ?_, sorted⟩
      rcases List.mem_cons.mp member with equal | inRest
      · exact equal ▸ below
      · exact String.lt_trans below (above other inRest)
    · split
      · exact sorted
      · rename_i notBelow notEqual
        refine List.pairwise_cons.mpr ⟨fun other member => ?_, ih sortedRest⟩
        rcases mem_insertName.mp member with isName | inRest
        · subst isName
          rcases Std.lt_trichotomy other first with below | equal | above
          · exact absurd below notBelow
          · exact absurd equal notEqual
          · exact above
        · exact above other inRest

/-- A set of extensions. -/
structure Extensions where
  names : List String
  sorted : names.Pairwise (· < ·)

namespace Extensions

def empty : Extensions := ⟨[], .nil⟩

def insert (extensions : Extensions) (name : String) : Extensions :=
  ⟨insertName name extensions.names, pairwise_insertName extensions.sorted⟩

/-- The members that the raw texts stand for. -/
def ofList (raw : List String) : Extensions :=
  (raw.filterMap normalize?).foldl insert empty

/-- Whether a path ends in a member. -/
def isMedia (extensions : Extensions) (path : String) : Bool :=
  match extension? path.toList with
  | some extension => extensions.names.contains (String.ofList (lower extension))
  | none => false

def contains (extensions : Extensions) (raw : String) : Bool :=
  match normalize? raw with
  | some name => extensions.names.contains name
  | none => false

def size (extensions : Extensions) : Nat := extensions.names.length

def isEmpty (extensions : Extensions) : Bool := extensions.names.isEmpty

/-- The members of a set built from raw texts. -/
theorem mem_ofList {raw : List String} {name : String} :
    name ∈ (ofList raw).names ↔ ∃ text ∈ raw, normalize? text = some name := by
  have general : ∀ (added : List String) (start : Extensions),
      name ∈ (added.foldl insert start).names ↔ name ∈ added ∨ name ∈ start.names := by
    intro added
    induction added with
    | nil => simp
    | cons first rest ih =>
      intro start
      rw [List.foldl_cons, ih]
      simp only [insert, mem_insertName, List.mem_cons]
      constructor
      · rintro (inRest | isFirst | inStart) <;> simp_all
      · rintro ((isFirst | inRest) | inStart) <;> simp_all
  simp [ofList, general, empty]

end Extensions

def pictureExtensions : List String :=
  [".jpg", ".jpeg", ".png", ".gif", ".bmp", ".webp", ".svg", ".tiff", ".ico", ".heic"]

def videoExtensions : List String :=
  [".mp4", ".avi", ".mkv", ".mov", ".wmv", ".flv", ".webm", ".m4v", ".mpg", ".mpeg", ".3gp", ".rm",
    ".rmvb", ".ts", ".m3u8"]

/-- The set used where none is configured. -/
def Extensions.usual : Extensions :=
  ofList (pictureExtensions ++ videoExtensions)

end MediaTrail
