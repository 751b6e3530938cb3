/-
**Queues.** What comes first leaves first. A queue is kept as two lists, so that both ends are at
hand; what it holds is the list `toList`.

* `toList_push`: a new item is the last;
* `pop?_eq_none`, `toList_of_pop?`: the item that leaves is the first, and none leaves an empty
  queue.
-/

namespace MediaTrail

/-- A queue. -/
structure Queue (α : Type) where
  /-- The items that leave next, in order. -/
  front : List α
  /-- The items behind them, last one first. -/
  back : List α

namespace Queue

variable {α : Type}

/-- The items in their order. -/
def toList (queue : Queue α) : List α := queue.front ++ queue.back.reverse

/-- A queue without items. -/
def empty : Queue α := ⟨[], []⟩

/-- The queue of some items. -/
def ofList (items : List α) : Queue α := ⟨items, []⟩

/-- The number of items. -/
def size (queue : Queue α) : Nat := queue.front.length + queue.back.length

/-- Whether there are no items. -/
def isEmpty (queue : Queue α) : Bool := queue.front.isEmpty && queue.back.isEmpty

/-- Appends an item. -/
def push (queue : Queue α) (item : α) : Queue α := { queue with back := item :: queue.back }

/-- Takes the first item. -/
def pop? (queue : Queue α) : Option (α × Queue α) :=
  match queue.front with
  | item :: front => some (item, { queue with front := front })
  | [] =>
    match queue.back.reverse with
    | item :: front => some (item, ⟨front, []⟩)
    | [] => none

/-! ### What a queue holds -/

@[simp] theorem toList_empty : (empty : Queue α).toList = [] := rfl

@[simp] theorem toList_ofList (items : List α) : (ofList items).toList = items := by
  simp [toList, ofList]

@[simp] theorem toList_push (queue : Queue α) (item : α) :
    (queue.push item).toList = queue.toList ++ [item] := by
  simp [toList, push]

theorem size_eq (queue : Queue α) : queue.size = queue.toList.length := by
  simp [size, toList]

theorem isEmpty_iff (queue : Queue α) : queue.isEmpty = true ↔ queue.toList = [] := by
  simp [isEmpty, toList]

/-- No item leaves an empty queue, and only an empty queue. -/
theorem pop?_eq_none (queue : Queue α) : queue.pop? = none ↔ queue.toList = [] := by
  obtain ⟨front, back⟩ := queue
  cases front with
  | cons item front => simp [pop?, toList]
  | nil => cases reversed : back.reverse <;> simp [pop?, toList, reversed]

/-- The item that leaves is the first. -/
theorem toList_of_pop? {queue rest : Queue α} {item : α} (popped : queue.pop? = some (item, rest)) :
    queue.toList = item :: rest.toList := by
  obtain ⟨front, back⟩ := queue
  cases front with
  | cons first front =>
    simp only [pop?, Option.some.injEq, Prod.mk.injEq] at popped
    obtain ⟨rfl, rfl⟩ := popped
    simp [toList]
  | nil =>
    cases reversed : back.reverse with
    | nil => simp [pop?, reversed] at popped
    | cons first later =>
      simp only [pop?, reversed, Option.some.injEq, Prod.mk.injEq] at popped
      obtain ⟨rfl, rfl⟩ := popped
      simp [toList, reversed]

end Queue

end MediaTrail
