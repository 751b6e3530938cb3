/-
**Requests forged in the address column.** The address of a client is whatever a header says, and
stands in front of the method's column. A line is read from the left, so an address that reads as a
method and a path is taken for the request itself: the decision on the line is then one on the path
that the client made up. An address that does not read so is passed over, whatever else it holds, and
nothing that a client says of its address changes the decision.

* `findFirst?_address`: a request is looked for in the address first, and then behind it;
* `requestPath?_of_any_address`: the path that is read off a line, for any address;
* `same_decision_of_unforged`: two accesses to a media file are decided on alike, whatever their
  headers say, as long as neither address reads as a request;
* `hidden_behind_forged_address`: a header that hides an access.
-/

import MediaTrail.Proofs.LoggedLines
import MediaTrail.Visitor

namespace MediaTrail

open Text

/-- The path that an address reads as, if it is taken for the column of a method. -/
def forgedPath? (address : String) : Option String :=
  requestPath? ("|" ++ address)

/-! ### Texts in front of a column mark -/

section

variable (more : List Char)

theorem dropWhile_before_mark {p : Char → Bool} (text : List Char) (stops : text.dropWhile p ≠ []) :
    (text ++ ' ' :: '|' :: more).dropWhile p = text.dropWhile p ++ ' ' :: '|' :: more := by
  rw [List.dropWhile_append, if_neg]
  rwa [List.isEmpty_iff]

/-- Behind nothing but blanks stands the mark. -/
theorem dropWhile_blanks_before_mark {text : List Char} (allBlank : text.dropWhile isBlank = []) :
    (text ++ ' ' :: '|' :: more).dropWhile isBlank = '|' :: more := by
  rw [List.dropWhile_append, allBlank, if_pos List.isEmpty_nil]
  rfl

theorem takeWhile_before_mark (text : List Char) :
    (text ++ ' ' :: '|' :: more).takeWhile isPathChar = text.takeWhile isPathChar := by
  have stops : (' ' :: '|' :: more).takeWhile isPathChar = [] := rfl
  rw [List.takeWhile_append, stops]
  split
  · rename_i whole
    rw [List.append_nil, List.takeWhile_eq_self_iff.mpr]
    exact List.takeWhile_eq_self_iff.mp (List.IsPrefix.eq_of_length (List.takeWhile_prefix _) whole)
  · rfl

/-- What is skipped or kept of a quote does not reach the mark. -/
theorem skipQuote_before_mark {text : List Char} (nonempty : text ≠ []) :
    skipQuote (text ++ ' ' :: '|' :: more) = skipQuote text ++ ' ' :: '|' :: more := by
  obtain ⟨char, rest, rfl⟩ := List.exists_cons_of_ne_nil nonempty
  by_cases quote : char = '"'
  · subst quote
    rfl
  · rw [List.cons_append, skipQuote_of_ne quote, skipQuote_of_ne quote, List.cons_append]

theorem head?_before_mark {text : List Char} (nonempty : text ≠ []) :
    (text ++ ' ' :: '|' :: more).head? = text.head? :=
  List.head?_append_of_ne_nil text nonempty

/-- **Nothing is read across a mark.** Letters, blanks and a path that are read off some text end in
it, where a blank and a mark follow: wherever the text runs out in the stages of the reading, these come
next, where a letter, a blank or a slash would have to. -/
theorem pathAfterMark?_before_mark (text : List Char) :
    pathAfterMark? (text ++ ' ' :: '|' :: more) = pathAfterMark? text := by
  cases text with
  | nil => rfl
  | cons first text =>
    by_cases isMark : first = '|'
    · subst isMark
      simp only [List.cons_append, pathAfterMark?]
      by_cases column : text.dropWhile isBlank = []
      · rw [dropWhile_blanks_before_mark more column, column]
        rfl
      rw [dropWhile_before_mark more text column, head?_before_mark more column]
      by_cases behind : (text.dropWhile isBlank).dropWhile isMethodChar = []
      · have runsOut : (text.dropWhile isBlank ++ ' ' :: '|' :: more).dropWhile isMethodChar =
            ' ' :: '|' :: more := by
          rw [List.dropWhile_append, behind, if_pos List.isEmpty_nil]
          rfl
        have atMark : (' ' :: '|' :: more).dropWhile isBlank = '|' :: more := rfl
        rw [behind, runsOut, atMark]
        simp [skipQuote]
      rw [dropWhile_before_mark more _ behind, head?_before_mark more behind]
      by_cases path : ((text.dropWhile isBlank).dropWhile isMethodChar).dropWhile isBlank = []
      · rw [dropWhile_blanks_before_mark more path, path]
        simp [skipQuote]
      rw [dropWhile_before_mark more _ path, skipQuote_before_mark more path, takeWhile_before_mark]
      by_cases quoted :
          skipQuote (((text.dropWhile isBlank).dropWhile isMethodChar).dropWhile isBlank) = []
      · rw [quoted]
        simp
      · rw [head?_before_mark more quoted]
    · have unread (text : List Char) : pathAfterMark? (first :: text) = none := by
        unfold pathAfterMark?
        split
        · rename_i same
          exact absurd (List.cons.inj same).1 isMark
        · rfl
      rw [List.cons_append, unread, unread]

theorem findFirst?_before_mark (text : List Char) :
    findFirst? pathAfterMark? (text ++ ' ' :: '|' :: more) =
      (findFirst? pathAfterMark? text).or (findFirst? pathAfterMark? ('|' :: more)) := by
  induction text with
  | nil => rfl
  | cons char rest ih =>
    rw [findFirst?, ← pathAfterMark?_before_mark more, List.cons_append, findFirst?, ih]
    cases pathAfterMark? (char :: (rest ++ ' ' :: '|' :: more)) with
    | none => rfl
    | some path => rfl

end

/-- Blanks behind a mark do not matter. -/
theorem findFirst?_padded {padding : List Char} (blank : ∀ char ∈ padding, isBlank char = true)
    (unmarked : '|' ∉ padding) (text : List Char) :
    findFirst? pathAfterMark? ('|' :: (padding ++ text)) =
      findFirst? pathAfterMark? ('|' :: text) := by
  have here : pathAfterMark? ('|' :: (padding ++ text)) = pathAfterMark? ('|' :: text) := by
    simp only [pathAfterMark?, List.dropWhile_append_of_pos blank]
  rw [findFirst?, here, findFirst?, findFirst?_unmarked _ _ unmarked]

/-- **The column of an address is read first.** A request in it hides the one behind it. -/
theorem findFirst?_address (width : Nat) (address more : List Char) :
    findFirst? pathAfterMark? ('|' :: ' ' :: (toRight width address ++ ' ' :: '|' :: more)) =
      (findFirst? pathAfterMark? ('|' :: address)).or (findFirst? pathAfterMark? ('|' :: more)) := by
  have column : '|' :: ' ' :: (toRight width address ++ ' ' :: '|' :: more) =
      '|' :: (List.replicate (width - address.length + 1) ' ' ++ address) ++ ' ' :: '|' :: more := by
    simp [toRight, List.leftpad, List.replicate_succ]
  rw [column, findFirst?_before_mark, findFirst?_padded]
  · intro char member
    rw [List.eq_of_mem_replicate member]
    decide
  · simp

/-! ### Lines with any address -/

/-- **The path that is read off a line.** It is the one that the address reads as, if it reads as
one, and else that of the record. -/
theorem requestPath?_of_any_address {record : Record} (isMethod : IsMethod record.method)
    (isPath : IsPlainPath record.path) : requestPath? (Layout.columns.render record) =
      (forgedPath? record.clientAddress).or (some record.path) := by
  obtain ⟨status, statusColumn, statusFits⟩ := statusColumn_eq record
  obtain ⟨latency, latencyColumn, latencyFits⟩ := latencyColumn_eq record
  have unmarked : '|' ∉ "[GIN] ".toList ++ record.time.date '/' ++ " - ".toList ++
      record.time.clock ++ [' '] := by
    simp [mark_not_mem_date record.time '/' (by decide), mark_not_mem_clock]
  have mark : ("|" ++ record.clientAddress).toList = '|' :: record.clientAddress.toList := by
    rw [String.toList_append]
    rfl
  rw [requestPath?, Layout.render, String.toList_ofList, inColumns_eq, statusColumn, latencyColumn,
    findFirst?_unmarked _ _ unmarked, findFirst?_column 3 _ statusFits,
    findFirst?_column 13 _ latencyFits, findFirst?_address, forgedPath?, requestPath?, mark]
  cases findFirst? pathAfterMark? ('|' :: record.clientAddress.toList) with
  | some forged => rfl
  | none =>
    rw [findFirst?, pathAfterMark?_request _ isMethod isPath]
    simp

/-- A record is decided on by what its address reads as, or else by its own path. -/
theorem forwards_of_any_address (classifier : Classifier) {record : Record}
    (isMethod : IsMethod record.method) (isPath : IsPlainPath record.path) :
    classifier.forwards (Layout.columns.render record) = false ↔
      let path := (forgedPath? record.clientAddress).getD record.path
      classifier.classify path = .ignored ∨ (classifier.isApiPath path = true ∧
        classifier.extensions.mentioned (Layout.columns.render record) = false) := by
  have found := requestPath?_of_any_address isMethod isPath
  cases forged : forgedPath? record.clientAddress with
  | some path =>
    rw [forged] at found
    exact forwards_of_requestPath? (isAccessLine_render record) found
  | none =>
    rw [forged] at found
    exact forwards_of_requestPath? (isAccessLine_render record) found

/-- The line of an access to a media file is let through, whatever its address is that does not read
as a request. -/
theorem forwards_of_unforged (classifier : Classifier) {record : Record}
    (isMethod : IsMethod record.method) (isPath : IsPlainPath record.path)
    (direct : classifier.classify record.path = .directMedia)
    (mentions : classifier.isApiPath record.path = false ∨ classifier.extensions.IsAscii)
    (unforged : forgedPath? record.clientAddress = none) :
    classifier.forwards (Layout.columns.render record) = true := by
  rw [← Bool.not_eq_false]
  intro leftOut
  have decided := (forwards_of_any_address classifier isMethod isPath).mp leftOut
  simp only [unforged, Option.getD_none, direct] at decided
  rcases decided with ignored | ⟨isApi, unmentioned⟩
  · cases ignored
  · rcases mentions with notApi | ascii
    · rw [notApi] at isApi
      cases isApi
    · rw [mentioned_of_path ascii (isMedia_of_classify direct)] at unmentioned
      cases unmentioned

/-- **What headers cannot change.** The line of an access to a media file is let through whatever the
headers make of the client's address, unless an address reads as a request. A path that is also one of
interface calls has to be mentioned in its line, as it is where extensions are made of the first 128
characters. -/
theorem same_decision_of_unforged (classifier : Classifier) (record : Record)
    (isMethod : IsMethod record.method) (isPath : IsPlainPath record.path)
    (direct : classifier.classify record.path = .directMedia)
    (mentions : classifier.isApiPath record.path = false ∨ classifier.extensions.IsAscii)
    (first second : Headers) (peer other : Peer)
    (unforged : forgedPath? (clientAddress first peer) = none)
    (unforged' : forgedPath? (clientAddress second other) = none) :
    let line (headers : Headers) (peer : Peer) : String :=
      Layout.columns.render { record with clientAddress := clientAddress headers peer }
    classifier.forwards (line first peer) = classifier.forwards (line second other) ∧
      classifier.forwards (line first peer) = true := by
  intro line
  have kept (headers : Headers) (peer : Peer)
      (unforged : forgedPath? (clientAddress headers peer) = none) :
      classifier.forwards (line headers peer) = true :=
    forwards_of_unforged classifier isMethod isPath direct mentions unforged
  rw [kept first peer unforged, kept second other unforged']
  exact ⟨rfl, rfl⟩

/-- An address with blanks and column marks, next to one that no header names. -/
theorem same_decision_of_marked_address :
    let classifier : Classifier :=
      ⟨.ofList ["mp4"], ["/assets/"], "/api/list", "/api/get", ["/api/clip.mp4"]⟩
    let record : Record :=
      ⟨⟨2024, 5, 1, 12, 0, 0⟩, "", "GET", "/api/clip.mp4?t=1", "ann", some 200, some ⟨1500⟩, ""⟩
    let headers : Headers := [.named "X-Forwarded-For" (Json.ascii " | GET x | /assets/ , 10.0.0.1")]
    let line (headers : Headers) (peer : Peer) : String :=
      Layout.columns.render { record with clientAddress := clientAddress headers peer }
    clientAddress headers {} = "| GET x | /assets/" ∧
      classifier.forwards (line headers {}) = classifier.forwards (line [] {}) := by
  intro classifier record headers line
  have named : clientAddress headers {} = "| GET x | /assets/" := by decide
  have general := same_decision_of_unforged classifier record (by decide) (by decide) (by decide)
    (.inr (by decide)) headers [] {} {} (by decide) (by decide)
  exact ⟨named, general.1⟩

/-- **A header that hides an access.** An address that reads as the request for an ignored file is
what the line is judged by. And where an extension is mentioned or not as its neighbours make of a
sigma, the mention of another one in the address decides. -/
theorem hidden_behind_forged_address :
    let classifier : Classifier :=
      ⟨.ofList ["mp4", "Σ"], ["/assets/"], "/api/list", "/api/get", ["/api/clip.Σ"]⟩
    let line (path : String) (headers : Headers) : String := Layout.columns.render
      ⟨⟨2024, 5, 1, 12, 0, 0⟩, clientAddress headers {}, "GET", path, "ann", some 200, none, ""⟩
    let forwardedFor (address : String) : Headers :=
      [.named "X-Forwarded-For" (Json.ascii address)]
    (classifier.classify "/d/a.mp4" = .directMedia ∧ classifier.isApiPath "/d/a.mp4" = false ∧
      classifier.forwards (line "/d/a.mp4" []) = true ∧
      classifier.forwards (line "/d/a.mp4" (forwardedFor "GET /assets/x")) = false) ∧
    (classifier.classify "/api/clip.Σ" = .directMedia ∧
      classifier.forwards (line "/api/clip.Σ" []) = false ∧
      classifier.forwards (line "/api/clip.Σ" (forwardedFor "x.mp4")) = true) := by
  decide +kernel

end MediaTrail
