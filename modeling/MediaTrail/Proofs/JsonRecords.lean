/-
**What arrays and records are read as.** The outcome of an array is that of its items, and the outcome
of a record that of its members, one after the other (`filled`): a member of another kind, a member
given twice and a missing one stop the reader, and members nobody knows are passed over.

The loops count their rounds by the bytes. Every piece takes at least one of them, so that the rounds
suffice (`IsRow.length_le`), and each loop is led over its row by an induction on the row.

* `items_gives`, `record_gives`: the outcomes of arrays and of records;
* `filled_eq_some`: a record all of whose members fit is the value that they were taken from;
* `filled_eq_none`: a record with a member that is refused is refused.
-/

import Mathlib.Data.List.Forall2
import Mathlib.Tactic.Choose
import MediaTrail.Json.Record
import MediaTrail.Proofs.JsonScalars

namespace MediaTrail.Json

open Text (Bytes)

/-! ### Rows -/

/-- A row is at least as long as it has pieces, none of which is empty. -/
theorem IsRow.length_le {κ : Type} {isPiece : κ → Bytes → Prop} {pieces : List κ} {row : Bytes}
    (isRow : IsRow isPiece pieces row)
    (nonempty : ∀ piece ∈ pieces, ∀ text, isPiece piece text → text ≠ []) :
    pieces.length ≤ row.length := by
  induction isRow with
  | none isBlanks => exact Nat.zero_le _
  | last blanksBefore here blanksAfter =>
    have long := List.length_pos_iff.mpr (nonempty _ List.mem_cons_self _ here)
    simp only [List.length_append, List.length_singleton]
    omega
  | more blanksBefore here blanksAfter another later ih =>
    have rest := ih fun piece member => nonempty piece (List.mem_cons_of_mem _ member)
    simp only [List.length_append, List.length_cons]
    omega

/-- What stands between the place of a loop and the next piece, blanks apart: nothing behind the
bracket that opens, and a comma behind another piece. -/
inductive Gap : Bool → Bytes → Prop
  | opening : Gap true []
  | comma {blanks : Bytes} (isBlanks : IsBlanks blanks) : Gap false (blanks ++ [0x2C])

/-! ### Arrays -/

section

variable {isFirst : Bool}

theorem nextItem_first {bytes more : Bytes} {byte : UInt8}
    (shown : skipBlanks bytes = byte :: more) (noBracket : byte ≠ 0x5D) :
    nextItem true bytes = .ok (true, byte :: more) := by
  simp [nextItem, shown, noBracket]

theorem nextItem_comma {bytes behind more : Bytes} {byte : UInt8}
    (comma : skipBlanks bytes = 0x2C :: behind) (shown : skipBlanks behind = byte :: more)
    (noBracket : byte ≠ 0x5D) :
    nextItem false bytes = .ok (true, byte :: more) := by
  simp [nextItem, comma, shown, noBracket]

theorem nextItem_item {lead before item : Bytes} (gap : Gap isFirst lead) (isBlanks : IsBlanks before)
    (isValue : IsValue item) (rest : Bytes) :
    nextItem isFirst (lead ++ (before ++ (item ++ rest))) = .ok (true, item ++ rest) := by
  obtain ⟨byte, more, rfl, shows⟩ := isValue.shows
  have shown : skipBlanks (before ++ (byte :: more ++ rest)) = byte :: (more ++ rest) :=
    skipBlanks_shown isBlanks shows.visible
  cases gap with
  | opening => exact nextItem_first shown shows.noBracket
  | @comma blanks isGap =>
    refine nextItem_comma ?_ shown shows.noBracket
    rw [List.append_assoc, List.singleton_append, skipBlanks_shown isGap (by decide)]

theorem nextItem_close {blanks : Bytes} (isBlanks : IsBlanks blanks) (rest : Bytes) :
    nextItem isFirst (blanks ++ 0x5D :: rest) = .ok (false, rest) := by
  rw [nextItem, skipBlanks_shown isBlanks (by decide)]
  rfl

variable {α : Type} {read : Reader α}

/-- One item: the loop goes on behind it if it is given, and stops if it is refused. -/
theorem itemsFrom_item {item lead before rest : Bytes} (gap : Gap isFirst lead)
    (isBlanks : IsBlanks before) (isValue : IsValue item) (stops : Stops rest)
    {value? : Option α} (gives : Gives read item value?) (round : UInt8) (rounds : Bytes)
    (done : List α) {outcome : Option (List α × Bytes)}
    (later : ∀ value, value? = some value →
      Ends (itemsFrom read rounds false (value :: done) rest) outcome)
    (refused : value? = none → outcome = none) :
    Ends (itemsFrom read (round :: rounds) isFirst done (lead ++ (before ++ (item ++ rest))))
      outcome := by
  have here := gives [] rest isBlanks_nil stops
  rw [List.nil_append] at here
  have round : itemsFrom read (round :: rounds) isFirst done (lead ++ (before ++ (item ++ rest))) =
      (read (item ++ rest) >>= fun given =>
        itemsFrom read rounds false (given.1 :: done) given.2) := by
    rw [itemsFrom, nextItem_item gap isBlanks isValue]
    rfl
  rw [round]
  cases value? with
  | some value => exact here.bind (later value rfl)
  | none =>
    rw [refused rfl]
    exact here.bind_none _

theorem itemsFrom_close (read : Reader α) {blanks : Bytes} (isBlanks : IsBlanks blanks) (round : UInt8)
    (rounds : Bytes) (done : List α) (rest : Bytes) :
    itemsFrom read (round :: rounds) isFirst done (blanks ++ 0x5D :: rest) =
      .ok (done.reverse, rest) := by
  rw [itemsFrom, nextItem_close isBlanks]
  rfl

/-- **A loop over the items of an array** gives them behind those already read, if all of them are
given. -/
theorem itemsFrom_gives {texts : List Bytes} {row : Bytes} (isRow : IsRow Eq texts row)
    (values : ∀ item ∈ texts, IsValue item) {outcomes : List (Option α)}
    (each : List.Forall₂ (Gives read) texts outcomes) {rounds lead : Bytes}
    (enough : texts.length < rounds.length) (gap : Gap isFirst lead)
    (behindComma : texts = [] → isFirst = true) (done : List α) (rest : Bytes) :
    Ends (itemsFrom read rounds isFirst done (lead ++ (row ++ 0x5D :: rest)))
      ((outcomes.mapM id).map fun values => (done.reverse ++ values, rest)) := by
  induction isRow generalizing outcomes rounds lead isFirst done with
  | @none blanks isBlanks =>
    obtain ⟨round, rounds, rfl⟩ := List.exists_cons_of_length_pos (Nat.zero_lt_of_lt enough)
    cases each
    cases gap with
    | opening =>
      refine (itemsFrom_close read isBlanks round rounds done rest).trans ?_
      simp
    | comma isGap => exact absurd (behindComma rfl) Bool.false_ne_true
  | @last item before text after blanksBefore here blanksAfter =>
    obtain ⟨round, rounds, rfl⟩ := List.exists_cons_of_length_pos (Nat.zero_lt_of_lt enough)
    obtain ⟨next, rounds, rfl⟩ := List.exists_cons_of_length_pos
      (Nat.lt_of_succ_lt_succ enough)
    subst here
    obtain ⟨outcome, _, gives, givesNone, rfl⟩ := List.forall₂_cons_left_iff.mp each
    cases givesNone
    rw [List.append_assoc, List.append_assoc]
    refine itemsFrom_item gap blanksBefore (values item List.mem_cons_self)
      (blanksAfter.stops_append (stops_cons (Or.inr (Or.inl rfl)) rest)) gives round _ done ?_ ?_
    · rintro value rfl
      refine (itemsFrom_close read blanksAfter next rounds (value :: done) rest).trans ?_
      simp
    · rintro rfl
      simp
  | @more item items before text after row blanksBefore here blanksAfter another later ih =>
    obtain ⟨round, rounds, rfl⟩ := List.exists_cons_of_length_pos (Nat.zero_lt_of_lt enough)
    subst here
    obtain ⟨outcome, outcomes, gives, eachLater, rfl⟩ := List.forall₂_cons_left_iff.mp each
    rw [List.append_assoc, List.append_assoc, List.append_assoc, List.cons_append]
    refine itemsFrom_item gap blanksBefore (values item List.mem_cons_self)
      (blanksAfter.stops_append (stops_cons (Or.inl rfl) _)) gives round rounds done ?_ ?_
    · rintro value rfl
      have onward := ih (fun item member => values item (List.mem_cons_of_mem _ member)) eachLater
        (Nat.lt_of_succ_lt_succ enough) (Gap.comma blanksAfter) (fun noMore => absurd noMore another)
        (value :: done)
      rw [List.append_assoc, List.singleton_append] at onward
      cases all : outcomes.mapM id <;> simpa [all] using onward
    · rintro rfl
      simp

/-- **The outcome of an array is that of its items.** -/
theorem items_gives {texts : List Bytes} {text : Bytes} (isArray : IsArray texts text)
    {outcomes : List (Option α)} (each : List.Forall₂ (Gives read) texts outcomes) :
    Gives (items read) text (outcomes.mapM id) := by
  obtain ⟨values, row, isRow, rfl⟩ := isArray
  intro blanks rest isBlanks _
  have long : texts.length ≤ row.length := by
    refine isRow.length_le fun item member text same => ?_
    obtain ⟨byte, more, rfl, -⟩ := (values item member).shows
    rw [← same]
    exact List.cons_ne_nil _ _
  have enough : texts.length < (row ++ 0x5D :: rest).length := by
    rw [List.length_append, List.length_cons]
    omega
  have loop := itemsFrom_gives isRow values each enough Gap.opening (fun _ => rfl) [] rest
  rw [items, List.cons_append, skipBlanks_shown isBlanks (by decide), List.append_assoc]
  exact loop

theorem mapM_some (values : List α) : (values.map some).mapM id = some values := by
  induction values with
  | nil => rfl
  | cons value later ih =>
    rw [List.map_cons, List.mapM_cons, ih]
    rfl

end

/-! ### Objects -/

section

variable {isFirst : Bool}

theorem key_quote {before : Bytes} (isBlanks : IsBlanks before) (body rest : Bytes) :
    key (before ++ (quote body ++ rest)) = Quotation.read (body ++ 0x22 :: rest) := by
  rw [key, quote, List.cons_append, skipBlanks_shown isBlanks (by decide), List.append_assoc]
  rfl

/-- The next key is what its quotation is read as, and is refused if that is. -/
theorem nextKey_quote {lead before : Bytes} (gap : Gap isFirst lead) (isBlanks : IsBlanks before)
    (body rest : Bytes) : nextKey isFirst (lead ++ (before ++ (quote body ++ rest))) =
      (Quotation.read (body ++ 0x22 :: rest) >>= fun given => .ok (some given.1, given.2)) := by
  cases gap with
  | opening =>
    have found := key_quote isBlanks_nil body rest
    rw [List.nil_append, quote, List.cons_append] at found
    rw [nextKey, List.nil_append, quote, List.cons_append, skipBlanks_shown isBlanks (by decide)]
    show (key _ >>= _) = _
    rw [found]
    rfl
  | comma isGap =>
    rw [nextKey, List.append_assoc, List.singleton_append, skipBlanks_shown isGap (by decide)]
    show (key _ >>= _) = _
    rw [key_quote isBlanks]
    rfl

theorem nextKey_close {blanks : Bytes} (isBlanks : IsBlanks blanks) (rest : Bytes) :
    nextKey isFirst (blanks ++ 0x7D :: rest) = .ok (none, rest) := by
  rw [nextKey, skipBlanks_shown isBlanks (by decide)]
  rfl

theorem colon_of_blanks {blanks : Bytes} (isBlanks : IsBlanks blanks) (rest : Bytes) :
    colon (blanks ++ 0x3A :: rest) = .ok rest := by
  rw [colon, skipBlanks_shown isBlanks (by decide)]
  rfl

variable {σ : Type} (members : List (Member σ))

def member? (key : String) : Option (Member σ) :=
  members.find? fun member => member.name == key

/-- The outcome of a record whose members are given in this order, each with the outcome of its own
value, behind members that were `seen` before. -/
def filled (seen : List String) (draft : σ) : List (String × Option (σ → σ)) → Option σ
  | [] =>
    if members.all fun member => !member.required || seen.contains member.name then some draft
    else none
  | (key, put?) :: later =>
    match member? members key with
    | some _ =>
      if seen.contains key then none
      else put?.bind fun put => filled (key :: seen) (put draft) later
    | none => filled seen draft later

/-- The names seen and the draft behind one more member, if a member of this name and with this
outcome of its value is taken. -/
def taken (before : List String × σ) (key : String) (put? : Option (σ → σ)) :
    Option (List String × σ) :=
  match member? members key with
  | some _ =>
    if before.1.contains key then none
    else put?.map fun put => (key :: before.1, put before.2)
  | none => some before

variable {members}

section

variable {key : String} {member : Member σ} {seen : List String}

theorem taken_unknown (unknown : member? members key = none) (before : List String × σ)
    (put? : Option (σ → σ)) : taken members before key put? = some before := by
  rw [taken, unknown]

theorem taken_twice (found : member? members key = some member) (twice : key ∈ seen) (draft : σ)
    (put? : Option (σ → σ)) : taken members (seen, draft) key put? = none := by
  rw [taken, found]
  exact if_pos (List.contains_iff_mem.mpr twice)

theorem taken_known (found : member? members key = some member) (fresh : key ∉ seen) (draft : σ)
    (put? : Option (σ → σ)) : taken members (seen, draft) key put? =
      put?.map fun put => (key :: seen, put draft) := by
  rw [taken, found]
  exact if_neg fun contained => fresh (List.contains_iff_mem.mp contained)

/-- A record is filled member by member. -/
theorem filled_cons (seen : List String) (draft : σ) (key : String) (put? : Option (σ → σ))
    (later : List (String × Option (σ → σ))) :
    filled members seen draft ((key, put?) :: later) =
      (taken members (seen, draft) key put?).bind fun after =>
        filled members after.1 after.2 later := by
  rw [filled, taken]
  cases member? members key with
  | some member =>
    by_cases twice : seen.contains key = true
    · simp only [if_pos twice, Option.bind_none]
    · simp only [if_neg twice, Option.bind_map]
      rfl
  | none => rfl

theorem filled_unknown (unknown : member? members key = none) (draft : σ) (put? : Option (σ → σ))
    (later : List (String × Option (σ → σ))) :
    filled members seen draft ((key, put?) :: later) = filled members seen draft later := by
  rw [filled_cons, taken_unknown unknown]
  rfl

theorem filled_known (found : member? members key = some member) (fresh : key ∉ seen) (draft : σ)
    (put? : Option (σ → σ)) (later : List (String × Option (σ → σ))) :
    filled members seen draft ((key, put?) :: later) =
      put?.bind fun put => filled members (key :: seen) (put draft) later := by
  rw [filled_cons, taken_known found fresh, Option.bind_map]
  rfl

end

theorem membersFrom_close {blanks : Bytes} (isBlanks : IsBlanks blanks) (round : UInt8)
    (rounds : Bytes) (seen : List String) (draft : σ) (rest : Bytes) :
    Ends (membersFrom members (round :: rounds) isFirst seen draft (blanks ++ 0x7D :: rest))
      ((filled members seen draft []).map fun value => (value, rest)) := by
  rw [membersFrom, nextKey_close isBlanks]
  show Ends (if _ then _ else _) ((if _ then _ else _ : Option σ).map _)
  split
  · rfl
  · exact ⟨.mismatched, rfl⟩

/-- One member whose key can be read: the loop goes on behind it if it is taken, and stops if it is
not. -/
theorem membersFrom_quote {key : String} {body lead before text value rest : Bytes}
    (gap : Gap isFirst lead) (isBlanks : IsBlanks before)
    (isMember : IsMember (fun body text => text = quote body) (body, value) text)
    (reads : ∀ rest, Quotation.read (body ++ 0x22 :: rest) = .ok (key, rest))
    (isValue : IsValue value) (stops : Stops rest) {put? : Option (σ → σ)}
    (gives : ∀ member, member? members key = some member → Gives member.read value put?)
    (round : UInt8) (rounds : Bytes) {seen : List String} {draft : σ} {outcome : Option (σ × Bytes)}
    (later : ∀ after, taken members (seen, draft) key put? = some after →
      Ends (membersFrom members rounds false after.1 after.2 rest) outcome)
    (refused : taken members (seen, draft) key put? = none → outcome = none) :
    Ends (membersFrom members (round :: rounds) isFirst seen draft
      (lead ++ (before ++ (text ++ rest)))) outcome := by
  cases isMember with
  | @parts _ keyText beforeColon afterColon _ isKey blanksBefore blanksAfter =>
    subst isKey
    have keyRead := nextKey_quote gap isBlanks body
      (beforeColon ++ 0x3A :: (afterColon ++ (value ++ rest)))
    have colonRead := colon_of_blanks blanksBefore (afterColon ++ (value ++ rest))
    rw [reads] at keyRead
    simp only [List.append_assoc, List.cons_append]
    rw [membersFrom, keyRead]
    cases known : member? members key with
    | some member =>
      have found : (members.find? fun member => member.name == key) = some member := known
      simp only [bind, Except.bind, found]
      by_cases twice : key ∈ seen
      · rw [if_pos (List.contains_iff_mem.mpr twice), refused (taken_twice known twice draft put?)]
        exact ⟨.mismatched, rfl⟩
      · have fresh : ¬ seen.contains key = true :=
          fun contained => twice (List.contains_iff_mem.mp contained)
        have here := gives member known afterColon rest blanksAfter stops
        rw [if_neg fresh, colonRead]
        rw [taken_known known twice] at later refused
        cases put? with
        | some put => exact here.bind (later _ rfl)
        | none =>
          rw [refused rfl]
          exact here.bind_none _
    | none =>
      have unknown : (members.find? fun member => member.name == key) = none := known
      simp only [bind, Except.bind, unknown, colonRead, skip_of_isValue blanksAfter isValue stops]
      exact later _ (taken_unknown known (seen, draft) put?)

/-- One member: the loop goes on behind it as `filled` does. -/
theorem membersFrom_member {name : String} {lead before text value rest final : Bytes}
    (gap : Gap isFirst lead) (isBlanks : IsBlanks before)
    (isMember : IsMember IsText (name, value) text) (isValue : IsValue value) (stops : Stops rest)
    {put? : Option (σ → σ)}
    (gives : ∀ member, member? members name = some member → Gives member.read value put?)
    (round : UInt8) (rounds : Bytes) (seen : List String) (draft : σ)
    (given : List (String × Option (σ → σ)))
    (later : ∀ seen draft, Ends (membersFrom members rounds false seen draft rest)
      ((filled members seen draft given).map fun value => (value, final))) :
    Ends (membersFrom members (round :: rounds) isFirst seen draft
        (lead ++ (before ++ (text ++ rest))))
      ((filled members seen draft ((name, put?) :: given)).map fun value => (value, final)) := by
  obtain ⟨body, spells, isMember⟩ := isMember.spelled
  rw [filled_cons]
  refine membersFrom_quote gap isBlanks isMember (Quotation.read_of_spells spells) isValue stops gives
    round rounds ?_ ?_
  · intro after isTaken
    rw [isTaken]
    exact later after.1 after.2
  · intro refused
    rw [refused]
    rfl

/-- **A loop over the members of an object** fills the draft as `filled` does. Behind a comma there is a
member, so that blanks alone stand only behind the bracket that opens. -/
theorem membersFrom_gives {pairs : List (String × Bytes)} {row : Bytes}
    (isRow : IsRow (IsMember IsText) pairs row) (values : ∀ pair ∈ pairs, IsValue pair.2)
    {put? : String × Bytes → Option (σ → σ)}
    (each : ∀ pair ∈ pairs, ∀ member, member? members pair.1 = some member →
      Gives member.read pair.2 (put? pair)) {rounds lead : Bytes}
    (enough : pairs.length < rounds.length) (gap : Gap isFirst lead)
    (behindComma : pairs = [] → isFirst = true) (seen : List String) (draft : σ) (rest : Bytes) :
    Ends (membersFrom members rounds isFirst seen draft (lead ++ (row ++ 0x7D :: rest)))
      ((filled members seen draft (pairs.map fun pair => (pair.1, put? pair))).map
        fun value => (value, rest)) := by
  induction isRow generalizing rounds lead isFirst seen draft with
  | @none blanks isBlanks =>
    obtain ⟨round, rounds, rfl⟩ := List.exists_cons_of_length_pos (Nat.zero_lt_of_lt enough)
    cases gap with
    | opening => exact membersFrom_close isBlanks round rounds seen draft rest
    | comma isGap => exact absurd (behindComma rfl) Bool.false_ne_true
  | @last pair before text after blanksBefore here blanksAfter =>
    obtain ⟨round, rounds, rfl⟩ := List.exists_cons_of_length_pos (Nat.zero_lt_of_lt enough)
    obtain ⟨next, rounds, rfl⟩ := List.exists_cons_of_length_pos
      (Nat.lt_of_succ_lt_succ enough)
    rw [List.append_assoc, List.append_assoc]
    exact membersFrom_member gap blanksBefore here (values pair List.mem_cons_self)
      (blanksAfter.stops_append (stops_cons (Or.inr (Or.inr rfl)) rest))
      (each pair List.mem_cons_self) round _ seen draft []
      fun seen draft => membersFrom_close blanksAfter next rounds seen draft rest
  | @more pair pairs before text after row blanksBefore here blanksAfter another later ih =>
    obtain ⟨round, rounds, rfl⟩ := List.exists_cons_of_length_pos (Nat.zero_lt_of_lt enough)
    rw [List.append_assoc, List.append_assoc, List.append_assoc, List.cons_append]
    refine membersFrom_member gap blanksBefore here (values pair List.mem_cons_self)
      (blanksAfter.stops_append (stops_cons (Or.inl rfl) _)) (each pair List.mem_cons_self) round
      rounds seen draft _ fun seen draft => ?_
    have onward := ih (fun pair member => values pair (List.mem_cons_of_mem _ member))
      (fun pair member => each pair (List.mem_cons_of_mem _ member))
      (Nat.lt_of_succ_lt_succ enough) (Gap.comma blanksAfter) (fun noMore => absurd noMore another)
      seen draft
    rw [List.append_assoc, List.singleton_append] at onward
    exact onward

/-- **The outcome of a record that is written as an object is that of its members.** -/
theorem record_gives {pairs : List (String × Bytes)} {text : Bytes} (isObject : IsObject pairs text)
    {put? : String × Bytes → Option (σ → σ)}
    (each : ∀ pair ∈ pairs, ∀ member, member? members pair.1 = some member →
      Gives member.read pair.2 (put? pair)) (draft : σ) :
    Gives (record members draft) text
      (filled members [] draft (pairs.map fun pair => (pair.1, put? pair))) := by
  obtain ⟨values, row, isRow, rfl⟩ := isObject
  intro blanks rest isBlanks _
  have long : pairs.length ≤ row.length := by
    refine isRow.length_le fun pair _ text isMember => ?_
    cases isMember with
    | parts isText =>
      obtain ⟨body, -, rfl⟩ := isText
      exact List.cons_ne_nil _ _
  have enough : pairs.length < (row ++ 0x7D :: rest).length := by
    rw [List.length_append, List.length_cons]
    omega
  have loop := membersFrom_gives isRow values each enough Gap.opening (fun _ => rfl) [] draft rest
  rw [record, List.cons_append, skipBlanks_shown isBlanks (by decide), List.append_assoc]
  exact loop

theorem ofReader_gives {α : Type} {read : Reader α} {text : Bytes} {value? : Option α}
    (gives : Gives read text value?) (name : String) (required : Bool) (put : α → σ → σ) :
    Gives (Member.ofReader name required read put).read text (value?.map put) := by
  intro blanks rest isBlanks stops
  have here := gives blanks rest isBlanks stops
  show Ends (read (blanks ++ (text ++ rest)) >>= _) _
  cases value? with
  | some value =>
    rw [show read (blanks ++ (text ++ rest)) = .ok (value, rest) from here]
    rfl
  | none => exact here.bind_none _

/-! ### Records from their members -/

/-- A member of the record is the one that its name names, among members of different names. -/
theorem member?_isSome_iff {name : String} :
    (∃ member, member? members name = some member) ↔ ∃ member ∈ members, member.name = name := by
  rw [← Option.isSome_iff_exists, member?, List.find?_isSome]
  simp

theorem of_member? {name : String} {member : Member σ}
    (found : member? members name = some member) : member ∈ members ∧ member.name = name :=
  ⟨List.mem_of_find?_eq_some found, by simpa using List.find?_some found⟩

theorem map_fst_given (pairs : List (String × Bytes)) (put? : String × Bytes → Option (σ → σ)) :
    (pairs.map fun pair => (pair.1, put? pair)).map Prod.fst = pairs.map Prod.fst := by
  rw [List.map_map]
  rfl

/-- **A record all of whose members fit is the value that they were taken from.** A draft `agrees` with
that value at a name if it holds the member of that name. Putting a member makes the draft agree there
and leaves the others as they are; a member left out agrees from the first. The induction is on the
members given: the draft agrees at every name that does not come any more, and names that were seen do
not come again. -/
theorem filled_eq_some {target : σ} {agrees : String → σ → Prop}
    (whole : ∀ draft, (∀ member ∈ members, agrees member.name draft) → draft = target)
    {given : List (String × Option (σ → σ))} {seen : List String} {draft : σ}
    (once : ∀ member ∈ members, (given.map Prod.fst).count member.name ≤ 1)
    (fresh : ∀ name ∈ seen, name ∉ given.map Prod.fst)
    (puts : ∀ pair ∈ given, (∃ member ∈ members, member.name = pair.1) →
      ∃ put, pair.2 = some put ∧ ∀ draft, agrees pair.1 (put draft) ∧
        ∀ name, name ≠ pair.1 → agrees name draft → agrees name (put draft))
    (leftOut : ∀ member ∈ members, member.name ∉ given.map Prod.fst → agrees member.name draft)
    (required : ∀ member ∈ members, member.required = true →
      member.name ∈ given.map Prod.fst ∨ member.name ∈ seen) :
    filled members seen draft given = some target := by
  induction given generalizing seen draft with
  | nil =>
    have complete : (members.all fun member =>
        !member.required || seen.contains member.name) = true := by
      rw [List.all_eq_true]
      intro member inMembers
      cases isRequired : member.required with
      | false => rfl
      | true =>
        have inSeen := (required member inMembers isRequired).resolve_left List.not_mem_nil
        simpa using inSeen
    rw [filled, if_pos complete, whole draft fun member inMembers =>
      leftOut member inMembers List.not_mem_nil]
  | cons pair later ih =>
    obtain ⟨key, put?⟩ := pair
    have onceLater : ∀ member ∈ members, (later.map Prod.fst).count member.name ≤ 1 :=
      fun member inMembers => Nat.le_trans List.count_le_count_cons (once member inMembers)
    have putsLater := fun pair inLater => puts pair (List.mem_cons_of_mem _ inLater)
    by_cases known : ∃ member ∈ members, member.name = key
    · obtain ⟨member, found⟩ := member?_isSome_iff.mpr known
      obtain ⟨put, rfl, puts⟩ := puts _ List.mem_cons_self known
      have notSeen : key ∉ seen := fun inSeen => fresh key inSeen List.mem_cons_self
      have notLater : key ∉ later.map Prod.fst := by
        obtain ⟨named, inMembers, rfl⟩ := known
        have counted := once named inMembers
        rw [List.map_cons, List.count_cons_self] at counted
        exact List.count_eq_zero.mp (by omega)
      rw [filled_known found notSeen, Option.bind_some]
      refine ih onceLater ?_ putsLater ?_ ?_
      · intro name inSeen inLater
        rcases List.mem_cons.mp inSeen with rfl | inSeen
        · exact notLater inLater
        · exact fresh name inSeen (List.mem_cons_of_mem _ inLater)
      · intro named inMembers notGiven
        by_cases same : named.name = key
        · rw [same]
          exact (puts draft).1
        · refine (puts draft).2 _ same (leftOut named inMembers fun inGiven => ?_)
          exact (List.mem_cons.mp inGiven).elim same notGiven
      · intro named inMembers isRequired
        rcases required named inMembers isRequired with inGiven | inSeen
        · rcases List.mem_cons.mp inGiven with same | inLater
          · exact Or.inr (List.mem_cons.mpr (Or.inl same))
          · exact Or.inl inLater
        · exact Or.inr (List.mem_cons_of_mem _ inSeen)
    · have unknown : member? members key = none := by
        cases found : member? members key with
        | none => rfl
        | some member => exact absurd (member?_isSome_iff.mp ⟨member, found⟩) known
      have freshLater : ∀ name ∈ seen, name ∉ later.map Prod.fst :=
        fun name inSeen inLater => fresh name inSeen (List.mem_cons_of_mem _ inLater)
      rw [filled_unknown unknown]
      refine ih onceLater freshLater putsLater ?_ ?_
      · intro named inMembers notGiven
        refine leftOut named inMembers fun inGiven => ?_
        exact (List.mem_cons.mp inGiven).elim (fun same => known ⟨named, inMembers, same⟩) notGiven
      · intro named inMembers isRequired
        rcases required named inMembers isRequired with inGiven | inSeen
        · exact (List.mem_cons.mp inGiven).elim
            (fun same => absurd ⟨named, inMembers, same⟩ known) Or.inl
        · exact Or.inr inSeen

end

/-! ### Members that may be left out -/

/-- A member that is given once is the one that its name finds. -/
theorem lookup_of_mem {pairs : List (String × Bytes)} {name : String} {value : Bytes}
    (member : (name, value) ∈ pairs) (once : (pairs.map Prod.fst).count name ≤ 1) :
    pairs.lookup name = some value := by
  induction pairs with
  | nil => cases member
  | cons pair later ih =>
    obtain ⟨key, given⟩ := pair
    rw [List.map_cons] at once
    rcases List.mem_cons.mp member with here | inLater
    · obtain ⟨rfl, rfl⟩ := Prod.mk.inj here
      rw [List.lookup_cons_self]
    · have isThere : name ∈ later.map Prod.fst := List.mem_map.mpr ⟨_, inLater, rfl⟩
      have counted := List.count_pos_iff.mpr isThere
      have different : key ≠ name := by
        rintro rfl
        rw [List.count_cons_self] at once
        omega
      rw [List.count_cons_of_ne different] at once
      rw [List.lookup_cons, beq_false_of_ne different.symm]
      exact ih inLater once

theorem mem_of_lookup {pairs : List (String × Bytes)} {name : String} {value : Bytes}
    (looked : pairs.lookup name = some value) : (name, value) ∈ pairs := by
  obtain ⟨before, after, rfl, -⟩ := List.lookup_eq_some_iff.mp looked
  exact List.mem_append_right before List.mem_cons_self

theorem Holds.of_notMem {α : Type} {isForm : α → Bytes → Prop} {missing value : α}
    {pairs : List (String × Bytes)} {name : String}
    (holds : Holds isForm missing value (pairs.lookup name)) (leftOut : name ∉ pairs.map Prod.fst) :
    value = missing := by
  have absent : pairs.lookup name = none := by
    rw [List.lookup_eq_none_iff]
    intro pair inPairs
    rw [bne_iff_ne]
    rintro rfl
    exact leftOut (List.mem_map.mpr ⟨pair, inPairs, rfl⟩)
  rw [absent] at holds
  exact holds

/-- What a member that may be left out or null is read as. -/
theorem gives_of_holds {α : Type} {isForm : α → Bytes → Prop} {read : Reader α} {missing value : α}
    {text : Bytes} (isValue : IsValue text) (holds : Holds isForm missing value (some text))
    (gives : ∀ text, isForm value text → Gives read text (some value))
    (notNull : ∀ text, isForm value text → text ≠ nullText) :
    Gives (orNull read missing) text (some value) := by
  rcases holds with ⟨rfl, rfl⟩ | isForm
  · exact orNull_null read value
  · exact orNull_gives isValue (notNull text isForm) (gives text isForm) missing

theorem ne_nullText_of_isText {text : String} {bytes : Bytes} (isText : IsText text bytes) :
    bytes ≠ nullText := by
  obtain ⟨body, -, rfl⟩ := isText
  intro same
  exact absurd (List.cons.inj same).1 (by decide)

end MediaTrail.Json
