/-
**The paths of interface calls.** They are collected one by one: the two endpoints first, and then each
further path unless it has been collected already. The list that is searched grows with each path that
is added, so what is kept along the way is said of the list so far: behind the endpoints stand those
further paths that are not endpoints, each once, by their first places.

* `IsRest`: the paths that a list adds to others, by their first places;
* `IsRest.known`, `IsRest.new`: one more path;
* `foldl_withPath`: a whole list of paths;
* `apiPaths_collected`: which paths there are, and what is an interface call.
-/

import Mathlib.Data.List.Basic
import Mathlib.Data.List.Induction
import Mathlib.Data.List.Nodup
import MediaTrail.Proofs.Endpoints

namespace MediaTrail

/-! ### Collecting -/

/-- The paths so far with one more, unless it is there. -/
def withPath (paths : List String) (path : String) : List String :=
  if paths.contains path then paths else paths ++ [path]

/-- What a list of paths adds to others that stand in front: its paths that are not among them, in the
order of their first places in the list. -/
structure IsRest (front paths rest : List String) : Prop where
  mem_iff : ∀ path, path ∈ rest ↔ path ∈ paths ∧ path ∉ front
  ordered : rest.Pairwise fun first second => paths.idxOf first < paths.idxOf second

namespace IsRest

variable {front paths rest : List String} {path : String}

theorem nil : IsRest front [] [] :=
  ⟨fun _ => by simp, .nil⟩

/-- First places stay the same if a path is added behind. -/
theorem ordered_push (isRest : IsRest front paths rest) :
    rest.Pairwise fun first second =>
      (paths ++ [path]).idxOf first < (paths ++ [path]).idxOf second := by
  refine isRest.ordered.imp_of_mem fun {first second} inFirst inSecond before => ?_
  rwa [List.idxOf_append_of_mem ((isRest.mem_iff first).mp inFirst).1,
    List.idxOf_append_of_mem ((isRest.mem_iff second).mp inSecond).1]

/-- A path that is there already adds nothing. -/
theorem known (isRest : IsRest front paths rest) (there : path ∈ front ++ rest) :
    IsRest front (paths ++ [path]) rest := by
  refine ⟨fun other => ?_, isRest.ordered_push⟩
  rw [isRest.mem_iff, List.mem_append, List.mem_singleton]
  constructor
  · rintro ⟨inPaths, notInFront⟩
    exact ⟨.inl inPaths, notInFront⟩
  · rintro ⟨inPaths | rfl, notInFront⟩
    · exact ⟨inPaths, notInFront⟩
    · have inRest := (List.mem_append.mp there).resolve_left notInFront
      exact (isRest.mem_iff other).mp inRest

/-- A path that is not there yet has its first place behind all others. -/
theorem new (isRest : IsRest front paths rest) (notThere : path ∉ front ++ rest) :
    IsRest front (paths ++ [path]) (rest ++ [path]) := by
  obtain ⟨notInFront, notInRest⟩ := List.mem_append.not.mp notThere |> not_or.mp
  have notInPaths : path ∉ paths := fun inPaths =>
    notInRest ((isRest.mem_iff path).mpr ⟨inPaths, notInFront⟩)
  refine ⟨fun other => ?_, List.pairwise_append.mpr
    ⟨isRest.ordered_push, List.pairwise_singleton _ _, ?_⟩⟩
  · rw [List.mem_append, List.mem_append, List.mem_singleton, isRest.mem_iff]
    constructor
    · rintro (⟨inPaths, notInFront⟩ | rfl)
      · exact ⟨.inl inPaths, notInFront⟩
      · exact ⟨.inr rfl, notInFront⟩
    · rintro ⟨inPaths | same, notInFront⟩
      · exact .inl ⟨inPaths, notInFront⟩
      · exact .inr same
  · intro first inRest last isLast
    have inPaths := ((isRest.mem_iff first).mp inRest).1
    rw [List.mem_singleton.mp isLast, List.idxOf_append_of_mem inPaths,
      List.idxOf_append_of_notMem notInPaths]
    exact Nat.lt_of_lt_of_le (List.idxOf_lt_length_of_mem inPaths) (Nat.le_add_right _ _)

theorem nodup (isRest : IsRest front paths rest) (once : front.Nodup) : (front ++ rest).Nodup := by
  have restOnce : rest.Nodup := isRest.ordered.imp fun before same =>
    absurd (same ▸ before) (Nat.lt_irrefl _)
  refine List.nodup_append.mpr ⟨once, restOnce, fun first inFront second inRest same => ?_⟩
  exact ((isRest.mem_iff second).mp inRest).2 (same ▸ inFront)

theorem mem_append_iff (isRest : IsRest front paths rest) :
    path ∈ front ++ rest ↔ path ∈ front ∨ path ∈ paths := by
  rw [List.mem_append, isRest.mem_iff]
  constructor
  · exact Or.imp_right And.left
  · rintro (inFront | inPaths)
    · exact .inl inFront
    · exact or_iff_not_imp_left.mpr fun notInFront => ⟨inPaths, notInFront⟩

end IsRest

/-- **Paths are collected behind others, each at its first place.** By induction from the end of the list:
the path collected last is compared with all that were collected before it, and these are what the list
without it gives. -/
theorem foldl_withPath (front paths : List String) :
    ∃ rest, paths.foldl withPath front = front ++ rest ∧ IsRest front paths rest := by
  induction paths using List.reverseRecOn with
  | nil => exact ⟨[], (List.append_nil front).symm, .nil⟩
  | append_singleton paths path ih =>
    obtain ⟨rest, collected, isRest⟩ := ih
    rw [List.foldl_append, collected, List.foldl_cons, List.foldl_nil, withPath]
    by_cases there : path ∈ front ++ rest
    · rw [if_pos (List.contains_iff_mem.mpr there)]
      exact ⟨rest, rfl, isRest.known there⟩
    · rw [if_neg (mt List.contains_iff_mem.mp there), List.append_assoc]
      exact ⟨rest ++ [path], rfl, isRest.new there⟩

/-! ### The paths of a classifier -/

namespace Classifier

def endpoints (classifier : Classifier) : List String :=
  [classifier.listEndpoint, classifier.getEndpoint]

theorem apiPaths_eq (classifier : Classifier) :
    classifier.apiPaths = classifier.extraApiPaths.foldl withPath classifier.endpoints :=
  rfl

/-- A request for a listing or for an object has the path of an endpoint. -/
theorem mem_endpoints_of_needsCapture {classifier : Classifier} {text : String}
    (captured : (classifier.classify text).needsCapture = true) :
    withoutQuery text ∈ classifier.endpoints := by
  rw [classify, classifyPath] at captured
  split at captured
  · cases captured
  split at captured
  · cases captured
  split at captured
  · rename_i isList
    exact List.mem_cons.mpr (.inl isList)
  split at captured
  · rename_i isGet
    exact List.mem_cons_of_mem _ (List.mem_singleton.mpr isGet)
  · cases captured

end Classifier

/-- **The paths of interface calls.** The two endpoints come first, then the further paths that are not
endpoints, each once, by their first places. A text is an interface call if what stands in front of its
first question mark is one of them, and every request for a listing or for an object is one. -/
theorem apiPaths_collected (classifier : Classifier)
    (distinct : classifier.listEndpoint ≠ classifier.getEndpoint) :
    classifier.apiPaths.Nodup ∧
    (∃ rest, classifier.apiPaths = classifier.endpoints ++ rest ∧
      IsRest classifier.endpoints classifier.extraApiPaths rest) ∧
    (∀ path, path ∈ classifier.apiPaths ↔
      path ∈ classifier.endpoints ∨ path ∈ classifier.extraApiPaths) ∧
    (∀ text, classifier.isApiPath text = true ↔ ∃ path, IsUpTo '?' text.toList path.toList ∧
      (path ∈ classifier.endpoints ∨ path ∈ classifier.extraApiPaths)) ∧
    ∀ text, classifier.classify text = .listQuery ∨ classifier.classify text = .getQuery →
      classifier.isApiPath text = true := by
  obtain ⟨rest, collected, isRest⟩ :=
    foldl_withPath classifier.endpoints classifier.extraApiPaths
  rw [← Classifier.apiPaths_eq] at collected
  have once : classifier.endpoints.Nodup := by
    simpa [Classifier.endpoints] using distinct
  have isPath (path : String) : path ∈ classifier.apiPaths ↔
      path ∈ classifier.endpoints ∨ path ∈ classifier.extraApiPaths := by
    rw [collected, isRest.mem_append_iff]
  have isCall (text : String) : classifier.isApiPath text = true ↔
      withoutQuery text ∈ classifier.endpoints ∨ withoutQuery text ∈ classifier.extraApiPaths := by
    rw [Classifier.isApiPath, List.contains_iff_mem, isPath]
  refine ⟨collected ▸ isRest.nodup once, ⟨rest, collected, isRest⟩, isPath, fun text => ?_,
    fun text asks => ?_⟩
  · simp only [← withoutQuery_eq_iff, exists_eq_left', isCall]
  · refine (isCall text).mpr (.inl (Classifier.mem_endpoints_of_needsCapture ?_))
    rcases asks with isList | isGet
    · rw [isList, Category.needsCapture]
    · rw [isGet, Category.needsCapture]

/-- Further paths that name the endpoints and each other again. -/
theorem apiPaths_collected_of_repeats :
    let classifier : Classifier :=
      { extensions := Extensions.ofList [], ignoredPrefixes := [], listEndpoint := "/list",
        getEndpoint := "/get", extraApiPaths := ["/b", "/list", "/a", "/b", "/get", "/a"] }
    classifier.listEndpoint ≠ classifier.getEndpoint ∧
    classifier.apiPaths = ["/list", "/get", "/b", "/a"] ∧ classifier.apiPaths.Nodup ∧
    classifier.classify "/get?list" = .getQuery ∧ classifier.isApiPath "/get?list" = true ∧
    classifier.isApiPath "/a?b?c" = true ∧ classifier.isApiPath "/c?/a" = false := by
  intro classifier
  have distinct : classifier.listEndpoint ≠ classifier.getEndpoint := by decide
  obtain ⟨once, -, -, -, asked⟩ := apiPaths_collected classifier distinct
  have isGet : classifier.classify "/get?list" = .getQuery := by decide
  exact ⟨distinct, by decide, once, isGet, asked _ (.inr isGet), by decide, by decide⟩

end MediaTrail
