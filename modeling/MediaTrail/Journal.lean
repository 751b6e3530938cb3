/-
**Journals.** A list that only grows at its end, kept with the newest entry at hand and its length
counted.

* `toList_push`, `toList_append`: new entries are the last;
* `size_eq_length`: the count is the number of entries.
-/

namespace MediaTrail

/-- A list that grows at its end. -/
structure Journal (α : Type) where
  newestFirst : List α := []
  size : Nat := 0
  size_eq : size = newestFirst.length := by rfl
deriving DecidableEq, Repr

namespace Journal

variable {α : Type}

def toList (journal : Journal α) : List α := journal.newestFirst.reverse

def empty : Journal α := {}

def push (journal : Journal α) (entry : α) : Journal α :=
  ⟨entry :: journal.newestFirst, journal.size + 1, by simp [journal.size_eq]⟩

def append (journal : Journal α) (entries : List α) : Journal α :=
  entries.foldl push journal

/-! ### What a journal holds -/

@[simp] theorem toList_empty : (empty : Journal α).toList = [] := rfl

@[simp] theorem toList_push (journal : Journal α) (entry : α) :
    (journal.push entry).toList = journal.toList ++ [entry] := by
  simp [toList, push]

@[simp] theorem toList_append (journal : Journal α) (entries : List α) :
    (journal.append entries).toList = journal.toList ++ entries := by
  induction entries generalizing journal with
  | nil => simp [append]
  | cons entry entries ih =>
    rw [append, List.foldl_cons, ← append, ih]
    simp

theorem size_eq_length (journal : Journal α) : journal.size = journal.toList.length := by
  rw [journal.size_eq, toList, List.length_reverse]

end Journal

end MediaTrail
