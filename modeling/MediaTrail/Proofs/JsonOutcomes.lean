/-
**What any value is read as.** A reader makes the same of a value wherever the value stands, also if it
refuses it. For a record the value may be anything: an object with members of any kind, in any order
and more than once, under keys that need not even be texts; an array of the members in their order, of
which the last may be missing; or no record at all.

* `Settles`: what a reader makes of a value depends on the value alone;
* `record_settles`: so it is for a record if it is for each of its members;
* `integer_settled`: the outcome of an integer of any size;
* `twoMembers_gives`: the outcome of a record of two members that are both given.
-/

import MediaTrail.Proofs.JsonEnds
import MediaTrail.Proofs.JsonRecords

namespace MediaTrail.Json

open Text (Bytes)

/-- What a reader makes of a value depends on the value alone, and not on what stands around it. -/
def Settles {α : Type} (read : Reader α) : Prop :=
  ∀ text, IsValue text → ∃ outcome, Gives read text outcome

theorem text_settles : Settles text :=
  fun _ => text_settled

theorem boolean_settles : Settles boolean :=
  fun _ => boolean_settled

theorem Settles.orNull {α : Type} {read : Reader α} (settles : Settles read) (missing : α) :
    Settles (orNull read missing) :=
  fun text isValue => orNull_settled isValue (settles text isValue) missing

theorem Settles.ofReader {α σ : Type} {read : Reader α} (settles : Settles read) (name : String)
    (required : Bool) (put : α → σ → σ) : Settles (Member.ofReader name required read put).read := by
  intro text isValue
  obtain ⟨outcome, gives⟩ := settles text isValue
  exact ⟨_, ofReader_gives gives name required put⟩

/-! ### Integers of any size -/

/-- What is made of an integer part does not depend on what follows it. -/
theorem readMagnitude_settled {whole : Bytes} (isWhole : IsWhole whole) (negative : Bool) :
    ∃ verdict : Except Fault Number, ∀ rest, Stops rest →
      Number.readMagnitude negative (whole ++ rest) = verdict.map fun number => (number, rest) := by
  refine ⟨(Number.whole negative (Number.gather 0 0 whole) []).map Prod.fst, fun rest stops => ?_⟩
  rw [readMagnitude_whole isWhole stops, Number.whole_ignores]
  cases Number.whole negative (Number.gather 0 0 whole) [] <;> rfl

/-- **An integer of any size is given or refused,** whatever the bounds are. -/
theorem integer_settled {value : Int} {text : Bytes} (isInteger : IsInteger value text)
    (low high : Int) : ∃ outcome, Gives (integer low high) text outcome := by
  have shown : ∃ byte more, text = byte :: more ∧ (byte = 0x2D ∨ 0x30 ≤ byte ∧ byte ≤ 0x39) ∧
      ∃ verdict : Except Fault Number, ∀ rest, Stops rest →
        Number.read (byte :: more ++ rest) = verdict.map fun number => (number, rest) := by
    obtain ⟨whole, isWhole, ⟨rfl, -⟩ | ⟨rfl, -⟩⟩ := isInteger
    · obtain ⟨verdict, reads⟩ := readMagnitude_settled isWhole false
      obtain ⟨first, more, rfl⟩ := List.exists_cons_of_ne_nil isWhole.isDigits.1
      have digit := isWhole.isDigits.2 first List.mem_cons_self
      exact ⟨first, more, rfl, Or.inr digit, verdict, fun rest stops =>
        (read_of_digit digit _).trans (reads rest stops)⟩
    · obtain ⟨verdict, reads⟩ := readMagnitude_settled isWhole true
      exact ⟨0x2D, whole, rfl, Or.inl rfl, verdict, reads⟩
  obtain ⟨byte, more, rfl, starts, verdict, reads⟩ := shown
  have read : ∀ blanks rest, IsBlanks blanks → Stops rest →
      integer low high (blanks ++ (byte :: more ++ rest)) =
        (verdict.map fun number => (number, rest)) >>= fun given =>
          ofNumber low high given.1 given.2 := by
    intro blanks rest isBlanks stops
    rw [← reads rest stops]
    exact integer_eq_bind isBlanks starts
  cases verdict with
  | error fault => exact ⟨none, fun blanks rest isBlanks stops => ⟨fault, read _ _ isBlanks stops⟩⟩
  | ok number =>
    cases number with
    | real => exact ⟨none, fun blanks rest isBlanks stops => ⟨_, read _ _ isBlanks stops⟩⟩
    | integer value =>
      by_cases inRange : low ≤ value ∧ value ≤ high
      · refine ⟨some value, fun blanks rest isBlanks stops => (read _ _ isBlanks stops).trans ?_⟩
        exact if_pos inRange
      · refine ⟨none, fun blanks rest isBlanks stops => ⟨.mismatched, ?_⟩⟩
        exact (read _ _ isBlanks stops).trans (if_neg inRange)

/-! ### Objects of any members -/

section

variable {σ : Type} {members : List (Member σ)}

/-- What is made of a value under some key, if the record has a member of that name. -/
theorem exists_put? (settles : ∀ member ∈ members, Settles member.read) {value : Bytes}
    (isValue : IsValue value) (key : String) : ∃ put?, ∀ member,
      member? members key = some member → Gives member.read value put? := by
  cases known : member? members key with
  | none => exact ⟨none, nofun⟩
  | some member =>
    obtain ⟨put?, gives⟩ := settles member (of_member? known).1 value isValue
    refine ⟨put?, fun other same => ?_⟩
    obtain rfl := Option.some.inj same
    exact gives

/-- One member of any kind, under a key of any kind: the outcome does not depend on what stands around
the member if that of the later members does not. A key that is no text stops the loop. -/
theorem membersFrom_settled_member (settles : ∀ member ∈ members, Settles member.read)
    {body value text : Bytes}
    (isMember : IsMember (fun body text => text = quote body) (body, value) text)
    (isQuoted : IsQuoted body) (isValue : IsValue value) (seen : List String) (draft : σ)
    (later : List String → σ → Option σ) :
    ∃ value? : Option σ, ∀ {isFirst : Bool} {lead before rest final : Bytes} (round : UInt8)
      (rounds : Bytes), Gap isFirst lead → IsBlanks before → Stops rest →
      (∀ seen draft, Ends (membersFrom members rounds false seen draft rest)
        ((later seen draft).map fun value => (value, final))) →
      Ends (membersFrom members (round :: rounds) isFirst seen draft
        (lead ++ (before ++ (text ++ rest)))) (value?.map fun value => (value, final)) := by
  rcases (Quotation.decides_of_isQuoted isQuoted).1 [] with ⟨key, reads⟩ | ⟨fault, refuses⟩
  · obtain ⟨put?, gives⟩ := exists_put? settles isValue key
    refine ⟨(taken members (seen, draft) key put?).bind fun after => later after.1 after.2, ?_⟩
    intro isFirst lead before rest final round rounds gap isBlanks stops ends
    refine membersFrom_quote gap isBlanks isMember reads isValue stops gives round rounds ?_ ?_
    · intro after isTaken
      rw [isTaken]
      exact ends after.1 after.2
    · intro refused
      rw [refused]
      rfl
  · refine ⟨none, ?_⟩
    intro isFirst lead before rest final round rounds gap isBlanks _ _
    cases isMember with
    | parts isKey =>
      subst isKey
      refine ⟨fault, ?_⟩
      rw [List.append_assoc, membersFrom, nextKey_quote gap isBlanks]
      show ((Quotation.readFrom .plain [] _ >>= _) >>= _) = _
      rw [refuses]
      rfl

/-- **The loop over the members of any object** ends in the same way wherever the object stands. -/
theorem membersFrom_settled (settles : ∀ member ∈ members, Settles member.read)
    {pairs : List (Bytes × Bytes)} {row : Bytes}
    (isRow : IsRow (IsMember fun body text => text = quote body) pairs row)
    (quoted : ∀ pair ∈ pairs, IsQuoted pair.1) (values : ∀ pair ∈ pairs, IsValue pair.2)
    (seen : List String) (draft : σ) :
    ∃ value? : Option σ, ∀ {isFirst : Bool} {lead rounds : Bytes} (rest : Bytes), Gap isFirst lead →
      (pairs = [] → isFirst = true) → pairs.length < rounds.length →
      Ends (membersFrom members rounds isFirst seen draft (lead ++ (row ++ 0x7D :: rest)))
        (value?.map fun value => (value, rest)) := by
  induction isRow generalizing seen draft with
  | none isBlanks =>
    refine ⟨filled members seen draft [], fun {_ _ rounds} rest gap behindComma enough => ?_⟩
    obtain ⟨round, rounds, rfl⟩ := List.exists_cons_of_length_pos (Nat.zero_lt_of_lt enough)
    cases gap with
    | opening => exact membersFrom_close isBlanks round rounds seen draft rest
    | comma isGap => exact absurd (behindComma rfl) Bool.false_ne_true
  | last blanksBefore here blanksAfter =>
    obtain ⟨value?, ends⟩ := membersFrom_settled_member settles here (quoted _ List.mem_cons_self)
      (values _ List.mem_cons_self) seen draft fun seen draft => filled members seen draft []
    refine ⟨value?, fun {_ _ rounds} rest gap _ enough => ?_⟩
    obtain ⟨round, rounds, rfl⟩ := List.exists_cons_of_length_pos (Nat.zero_lt_of_lt enough)
    obtain ⟨next, rounds, rfl⟩ := List.exists_cons_of_length_pos (Nat.lt_of_succ_lt_succ enough)
    rw [List.append_assoc, List.append_assoc]
    exact ends round _ gap blanksBefore
      (blanksAfter.stops_append (stops_cons (Or.inr (Or.inr rfl)) rest))
      fun seen draft => membersFrom_close blanksAfter next rounds seen draft rest
  | more blanksBefore here blanksAfter another _ ih =>
    have ih := ih (fun pair inPairs => quoted pair (List.mem_cons_of_mem _ inPairs))
      fun pair inPairs => values pair (List.mem_cons_of_mem _ inPairs)
    choose later endsLater using ih
    obtain ⟨value?, ends⟩ := membersFrom_settled_member settles here (quoted _ List.mem_cons_self)
      (values _ List.mem_cons_self) seen draft later
    refine ⟨value?, fun {_ _ rounds} rest gap _ enough => ?_⟩
    obtain ⟨round, rounds, rfl⟩ := List.exists_cons_of_length_pos (Nat.zero_lt_of_lt enough)
    rw [List.append_assoc, List.append_assoc, List.append_assoc, List.cons_append]
    refine ends round rounds gap blanksBefore
      (blanksAfter.stops_append (stops_cons (Or.inl rfl) _)) fun seen draft => ?_
    have onward := endsLater seen draft rest (Gap.comma blanksAfter) (fun noMore => absurd noMore another)
      (Nat.lt_of_succ_lt_succ enough)
    rw [List.append_assoc, List.singleton_append] at onward
    exact onward

/-! ### Members in their order -/

/-- Behind the last item, the members left are left out. -/
theorem membersInOrder_close (members : List (Member σ)) {isFirst : Bool} {blanks : Bytes}
    (isBlanks : IsBlanks blanks) (draft : σ) (rest : Bytes) :
    Ends (membersInOrder isFirst draft members (blanks ++ 0x5D :: rest))
      ((if members.any Member.required then none else some draft).map fun value => (value, rest)) := by
  cases members with
  | nil =>
    rw [membersInOrder, skipBlanks_shown isBlanks (by decide)]
    rfl
  | cons member later =>
    rw [membersInOrder, nextItem_close isBlanks]
    show Ends (if (member.required || later.any Member.required) = true then _ else _) _
    rw [List.any_cons]
    split
    · exact ⟨.mismatched, rfl⟩
    · rfl

/-- An item that no member is left for is refused. -/
theorem membersInOrder_surplus {isFirst : Bool} {lead before item : Bytes} (gap : Gap isFirst lead)
    (isBlanks : IsBlanks before) (isValue : IsValue item) (draft : σ) (rest : Bytes) :
    Ends (membersInOrder isFirst draft [] (lead ++ (before ++ (item ++ rest)))) none := by
  refine ⟨.malformed, ?_⟩
  cases gap with
  | opening =>
    obtain ⟨byte, more, rfl, shows⟩ := isValue.shows
    rw [List.nil_append, membersInOrder, List.cons_append, skipBlanks_shown isBlanks shows.visible]
    exact if_neg shows.noBracket
  | comma isGap =>
    rw [List.append_assoc, List.singleton_append, membersInOrder, skipBlanks_shown isGap (by decide)]
    rfl

/-- One item, which is the value of the first member left. -/
theorem membersInOrder_item {member : Member σ} {later : List (Member σ)} {isFirst : Bool}
    {lead before item rest final : Bytes} (gap : Gap isFirst lead) (isBlanks : IsBlanks before)
    (isValue : IsValue item) (stops : Stops rest) {put? : Option (σ → σ)}
    (gives : Gives member.read item put?) {draft : σ} {after : σ → Option σ}
    (ends : ∀ draft, Ends (membersInOrder false draft later rest)
      ((after draft).map fun value => (value, final))) :
    Ends (membersInOrder isFirst draft (member :: later) (lead ++ (before ++ (item ++ rest))))
      ((put?.bind fun put => after (put draft)).map fun value => (value, final)) := by
  have here := gives [] rest isBlanks_nil stops
  rw [List.nil_append] at here
  rw [membersInOrder, nextItem_item gap isBlanks isValue]
  show Ends (member.read (item ++ rest) >>= fun given =>
    membersInOrder false (given.1 draft) later given.2) _
  cases put? with
  | none => exact here.bind_none _
  | some put => exact here.bind (ends (put draft))

/-- **Reading the members from any array** ends in the same way wherever the array stands. Each item takes
one member away from those that are left. -/
theorem membersInOrder_settled (settles : ∀ member ∈ members, Settles member.read)
    {texts : List Bytes} {row : Bytes} (isRow : IsRow Eq texts row)
    (values : ∀ item ∈ texts, IsValue item) (draft : σ) :
    ∃ value? : Option σ, ∀ {isFirst : Bool} {lead : Bytes} (rest : Bytes), Gap isFirst lead →
      (texts = [] → isFirst = true) →
      Ends (membersInOrder isFirst draft members (lead ++ (row ++ 0x5D :: rest)))
        (value?.map fun value => (value, rest)) := by
  induction isRow generalizing members draft with
  | none isBlanks =>
    refine ⟨if members.any Member.required then none else some draft, fun rest gap behindComma => ?_⟩
    cases gap with
    | opening => exact membersInOrder_close members isBlanks draft rest
    | comma isGap => exact absurd (behindComma rfl) Bool.false_ne_true
  | @last item before text after blanksBefore here blanksAfter =>
    subst here
    have isValue := values item List.mem_cons_self
    cases members with
    | nil =>
      refine ⟨none, fun rest gap _ => ?_⟩
      rw [List.append_assoc, List.append_assoc]
      exact membersInOrder_surplus gap blanksBefore isValue draft _
    | cons member later =>
      obtain ⟨put?, gives⟩ := settles member List.mem_cons_self item isValue
      refine ⟨put?.bind fun put => if later.any Member.required then none else some (put draft),
        fun rest gap _ => ?_⟩
      rw [List.append_assoc, List.append_assoc]
      exact membersInOrder_item gap blanksBefore isValue
        (blanksAfter.stops_append (stops_cons (Or.inr (Or.inl rfl)) rest)) gives
        fun draft => membersInOrder_close later blanksAfter draft rest
  | @more item items before text after row blanksBefore here blanksAfter another _ ih =>
    subst here
    have isValue := values item List.mem_cons_self
    cases members with
    | nil =>
      refine ⟨none, fun rest gap _ => ?_⟩
      rw [List.append_assoc, List.append_assoc]
      exact membersInOrder_surplus gap blanksBefore isValue draft _
    | cons member later =>
      obtain ⟨put?, gives⟩ := settles member List.mem_cons_self item isValue
      have ih := ih (fun member inLater => settles member (List.mem_cons_of_mem _ inLater))
        fun item inTexts => values item (List.mem_cons_of_mem _ inTexts)
      choose value? ends using ih
      refine ⟨put?.bind fun put => value? (put draft), fun rest gap _ => ?_⟩
      rw [List.append_assoc, List.append_assoc, List.append_assoc, List.cons_append]
      refine membersInOrder_item gap blanksBefore isValue
        (blanksAfter.stops_append (stops_cons (Or.inl rfl) _)) gives fun draft => ?_
      have onward := ends draft rest (Gap.comma blanksAfter) fun noMore => absurd noMore another
      rw [List.append_assoc, List.singleton_append] at onward
      exact onward

/-! ### Records -/

/-- What is neither an object nor an array is no record. -/
theorem record_refuses_other (members : List (Member σ)) (draft : σ) {byte : UInt8} {more : Bytes}
    (visible : isBlankByte byte = false) (noObject : byte ≠ 0x7B) (noArray : byte ≠ 0x5B) :
    Gives (record members draft) (byte :: more) none := by
  intro blanks rest isBlanks _
  refine ⟨otherKind (byte :: (more ++ rest)), ?_⟩
  rw [record, List.cons_append, skipBlanks_shown isBlanks visible]
  split
  · rename_i same
    exact absurd (List.cons.inj same).1 noObject
  · rename_i same
    exact absurd (List.cons.inj same).1 noArray
  · rfl

/-- **What is made of a value where a record is asked for** depends on the value alone, if it does for
each member. -/
theorem record_settles (settles : ∀ member ∈ members, Settles member.read) (draft : σ) :
    Settles (record members draft) := by
  intro text isValue
  cases isValue with
  | null => exact ⟨none, record_refuses_other members draft (by decide) (by decide) (by decide)⟩
  | truth value =>
    refine ⟨none, ?_⟩
    cases value with
    | false => exact record_refuses_other members draft (by decide) (by decide) (by decide)
    | true => exact record_refuses_other members draft (by decide) (by decide) (by decide)
  | number isNumber =>
    obtain ⟨byte, more, rfl, minus | digit⟩ := isNumber.first
    · subst minus
      exact ⟨none, record_refuses_other members draft (by decide) (by decide) (by decide)⟩
    · have shows : Shows [] byte := shows_of_other (Or.inr (Or.inr (Or.inr digit)))
      refine ⟨none, record_refuses_other members draft shows.visible ?_ ?_⟩
      · rintro rfl
        exact absurd digit (by decide)
      · rintro rfl
        exact absurd digit (by decide)
  | quotation isQuoted =>
    exact ⟨none, record_refuses_other members draft (by decide) (by decide) (by decide)⟩
  | array each isRow =>
    obtain ⟨value?, ends⟩ := membersInOrder_settled settles isRow each draft
    refine ⟨value?, fun blanks rest isBlanks _ => ?_⟩
    rw [record, List.cons_append, skipBlanks_shown isBlanks (by decide), List.append_assoc]
    exact ends rest Gap.opening fun _ => rfl
  | @object pairs row keys each isRow =>
    obtain ⟨value?, ends⟩ := membersFrom_settled settles isRow keys each [] draft
    refine ⟨value?, fun blanks rest isBlanks _ => ?_⟩
    have long : pairs.length ≤ row.length := by
      refine isRow.length_le fun pair _ text isMember => ?_
      cases isMember with
      | parts isKey =>
        subst isKey
        exact List.cons_ne_nil _ _
    have enough : pairs.length < (row ++ 0x7D :: rest).length := by
      rw [List.length_append, List.length_cons]
      omega
    rw [record, List.cons_append, skipBlanks_shown isBlanks (by decide), List.append_assoc]
    exact ends rest Gap.opening (fun _ => rfl) enough

/-- A record of two members, of which the first is required, from an object that has both. -/
theorem twoMembers_gives {α β : Type} {first second : String} (different : first ≠ second)
    {readFirst : Reader α} {readSecond : Reader β} (putFirst : α → σ → σ) (putSecond : β → σ → σ)
    {one two text : Bytes} (isObject : IsObject [(first, one), (second, two)] text) {one? : Option α}
    {two? : Option β} (oneGives : Gives readFirst one one?) (twoGives : Gives readSecond two two?)
    (draft : σ) :
    Gives (record [.ofReader first true readFirst putFirst,
        .ofReader second false readSecond putSecond] draft) text
      (one?.bind fun one => two?.map fun two => putSecond two (putFirst one draft)) := by
  let members : List (Member σ) := [.ofReader first true readFirst putFirst,
    .ofReader second false readSecond putSecond]
  let put? (pair : String × Bytes) : Option (σ → σ) :=
    if pair.1 = first then one?.map putFirst else two?.map putSecond
  have isFirst : member? members first = some (.ofReader first true readFirst putFirst) :=
    List.find?_cons_of_pos (beq_self_eq_true first)
  have isSecond : member? members second = some (.ofReader second false readSecond putSecond) := by
    refine (List.find?_cons_of_neg fun same => different ?_).trans
      (List.find?_cons_of_pos (beq_self_eq_true second))
    exact beq_iff_eq.mp same
  have gives : ∀ pair ∈ [(first, one), (second, two)], ∀ member,
      member? members pair.1 = some member → Gives member.read pair.2 (put? pair) := by
    intro pair inPairs member found
    simp only [List.mem_cons, List.not_mem_nil, or_false] at inPairs
    rcases inPairs with rfl | rfl
    · obtain rfl := Option.some.inj (isFirst.symm.trans found)
      rw [show put? (first, one) = one?.map putFirst from if_pos rfl]
      exact ofReader_gives oneGives _ _ _
    · obtain rfl := Option.some.inj (isSecond.symm.trans found)
      rw [show put? (second, two) = two?.map putSecond from if_neg different.symm]
      exact ofReader_gives twoGives _ _ _
  have complete (draft : σ) : filled members [second, first] draft [] = some draft := by
    refine if_pos (List.all_eq_true.mpr fun member inMembers => ?_)
    simp only [members, List.mem_cons, List.not_mem_nil, or_false] at inMembers
    rcases inMembers with rfl | rfl <;> simp [Member.ofReader]
  have result := record_gives isObject gives draft
  have outcome : filled members [] draft [(first, one?.map putFirst), (second, two?.map putSecond)] =
      one?.bind fun one => two?.map fun two => putSecond two (putFirst one draft) := by
    rw [filled_known isFirst List.not_mem_nil, Option.bind_map]
    congr 1
    funext one
    show filled members [first] (putFirst one draft) _ = _
    rw [filled_known isSecond (List.not_mem_cons_of_ne_of_not_mem different.symm List.not_mem_nil)]
    cases two? with
    | none => rfl
    | some two => exact complete _
  rw [← outcome]
  simpa [put?, different.symm] using result

end

end MediaTrail.Json
