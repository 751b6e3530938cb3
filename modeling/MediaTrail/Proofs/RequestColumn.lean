/-
**The request column of a rendered line.** A record in columns is looked through for the first place
that reads as a method and a path. No column in front of the method's can be taken for it: the status
and the latency do not start with a letter, and an address that does is followed by the next column
mark and not by a path. So the line is decided on as its record would be.

* `findFirst?_column`: a column in front of another one is passed over;
* `pathAfterMark?_request`: the method's column yields the path;
* `forwards_render`: the path of a record is found again in its line, and the line is left out exactly
  when the path is ignored, or is that of an interface call and no media file is mentioned.
-/

import Mathlib.Data.List.Basic
import Mathlib.Data.List.TakeWhile
import MediaTrail.Line
import MediaTrail.Proofs.ColumnTexts

namespace MediaTrail

open Text

/-! ### What is asked of a record -/

/-- A method is made of capital letters. -/
def IsMethod (method : String) : Prop :=
  method ≠ "" ∧ ∀ char ∈ method.toList, isMethodChar char = true

/-- A path starts with a slash and holds neither blanks nor quotes. -/
def IsPlainPath (path : String) : Prop :=
  path.toList.head? = some '/' ∧ ∀ char ∈ path.toList, isPathChar char = true

/-- An address that does not break its column. -/
def IsPlainAddress (address : String) : Prop :=
  ∀ char ∈ address.toList, isColumnChar char = true

instance (method : String) : Decidable (IsMethod method) :=
  decidable_of_iff (method ≠ "" ∧ method.toList.all isMethodChar = true)
    (and_congr_right fun _ => List.all_eq_true)

instance (path : String) : Decidable (IsPlainPath path) :=
  decidable_of_iff (path.toList.head? = some '/' ∧ path.toList.all isPathChar = true)
    (and_congr_right fun _ => List.all_eq_true)

instance (address : String) : Decidable (IsPlainAddress address) :=
  decidable_of_iff (address.toList.all isColumnChar = true) List.all_eq_true

/-! ### Searching past columns -/

theorem findFirst?_unmarked (left right : List Char) (unmarked : '|' ∉ left) :
    findFirst? pathAfterMark? (left ++ right) = findFirst? pathAfterMark? right := by
  induction left with
  | nil => rfl
  | cons char rest ih =>
    obtain ⟨notHere, notLater⟩ := not_or.mp (mt List.mem_cons.mpr unmarked)
    have here : pathAfterMark? (char :: (rest ++ right)) = none := by
      rw [pathAfterMark?]
      rintro _ same
      exact notHere (List.cons.inj same).1.symm
    rw [List.cons_append, findFirst?, here]
    exact ih notLater

theorem isBlank_of_isMethodChar {char : Char} (letter : isMethodChar char = true) :
    isBlank char = false := by
  rw [isMethodChar, Bool.and_eq_true, decide_eq_true_eq, decide_eq_true_eq] at letter
  have low : 0x41 ≤ char.toNat := UInt32.le_iff_toNat_le.mp letter.1
  have high : char.toNat ≤ 0x5A := UInt32.le_iff_toNat_le.mp letter.2
  exact isBlank_of_visible (by omega) (by omega)

theorem isMethodChar_of_isBlank {char : Char} (blank : isBlank char = true) :
    isMethodChar char = false := by
  refine Bool.eq_false_iff.mpr fun letter => ?_
  rw [isBlank_of_isMethodChar letter] at blank
  cases blank

theorem skipQuote_of_ne {char : Char} (noQuote : char ≠ '"') (rest : List Char) :
    skipQuote (char :: rest) = char :: rest := by
  unfold skipQuote
  split
  · rename_i same
    exact absurd (List.cons.inj same).1 noQuote
  · rfl

/-- No path is read behind a mark if something else than a blank follows the letters there. -/
theorem pathAfterMark?_of_letters {rest : List Char}
    (broken : ((rest.dropWhile isBlank).dropWhile isMethodChar).head?.any isBlank = false) :
    pathAfterMark? ('|' :: rest) = none := by
  rw [pathAfterMark?, broken, Bool.and_false, Bool.false_and, if_neg Bool.false_ne_true]

/-- **No path is read off a column that is followed by another one.** What follows its letters, if
there are any, is the rest of its text or the next mark. -/
theorem pathAfterMark?_column {padding text : List Char} (more : List Char)
    (blank : ∀ char ∈ padding, isBlank char = true)
    (fits : ∀ char ∈ text, isColumnChar char = true) :
    pathAfterMark? ('|' :: (padding ++ (text ++ ' ' :: '|' :: more))) = none := by
  have visible : ∀ char ∈ text, isBlank char = false := by
    intro char member
    have := fits char member
    rw [isColumnChar, Bool.and_eq_true, Bool.not_eq_true'] at this
    exact this.1
  have markVisible : isBlank '|' = false := by decide
  by_cases empty : text = []
  · have column : (padding ++ (text ++ ' ' :: '|' :: more)).dropWhile isBlank = '|' :: more := by
      have blanks : padding ++ (text ++ ' ' :: '|' :: more) = (padding ++ [' ']) ++ '|' :: more := by
        simp [empty]
      rw [blanks]
      refine dropWhile_append_of_head? (fun char member => ?_) (by simpa using markVisible)
      rcases List.mem_append.mp member with inPadding | isSpace
      · exact blank char inPadding
      · rw [List.mem_singleton.mp isSpace]
        decide
    refine pathAfterMark?_of_letters ?_
    rw [column, List.dropWhile_cons_of_neg (by decide)]
    exact markVisible
  · have column : (padding ++ (text ++ ' ' :: '|' :: more)).dropWhile isBlank =
        text ++ ' ' :: '|' :: more := by
      refine dropWhile_append_of_head? blank fun char atHead => visible char ?_
      obtain ⟨first, rest, rfl⟩ := List.exists_cons_of_ne_nil empty
      obtain rfl := Option.some.inj atHead
      exact List.mem_cons_self
    cases letters : text.dropWhile isMethodChar with
    | nil =>
      have allLetters : ∀ char ∈ text, isMethodChar char = true :=
        List.dropWhile_eq_nil_iff.mp letters
      have behind : ([' '] ++ '|' :: more).dropWhile isBlank = '|' :: more :=
        dropWhile_append_of_head? (List.all_eq_true.mp (by decide)) (by simpa using markVisible)
      rw [pathAfterMark?, column, List.dropWhile_append_of_pos allLetters,
        List.dropWhile_cons_of_neg (by decide), ← List.singleton_append, behind]
      simp [skipQuote]
    | cons other left =>
      have inText : other ∈ text :=
        (List.dropWhile_sublist isMethodChar).subset (by rw [letters]; exact List.mem_cons_self)
      refine pathAfterMark?_of_letters ?_
      rw [column, List.dropWhile_append, letters]
      exact visible other inText

/-- **A column that is followed by another one is passed over.** -/
theorem findFirst?_column {text : List Char} (width : Nat) (more : List Char)
    (fits : ∀ char ∈ text, isColumnChar char = true) :
    findFirst? pathAfterMark? ('|' :: ' ' :: (toRight width text ++ ' ' :: '|' :: more)) =
      findFirst? pathAfterMark? ('|' :: more) := by
  have column : ' ' :: (toRight width text ++ ' ' :: '|' :: more) =
      ' ' :: List.replicate (width - text.length) ' ' ++ (text ++ ' ' :: '|' :: more) := by
    simp [toRight, List.leftpad]
  have blank : ∀ char ∈ ' ' :: List.replicate (width - text.length) ' ', isBlank char = true := by
    intro char member
    rw [← List.replicate_succ] at member
    rw [List.eq_of_mem_replicate member]
    decide
  have unmarked : '|' ∉ ' ' :: List.replicate (width - text.length) ' ' ++ text ++ [' '] := by
    have notInText : '|' ∉ text := fun member => absurd (fits '|' member) (by decide)
    simp [notInText]
  rw [column, findFirst?, pathAfterMark?_column more blank fits]
  have parts : ' ' :: List.replicate (width - text.length) ' ' ++ (text ++ ' ' :: '|' :: more) =
      (' ' :: List.replicate (width - text.length) ' ' ++ text ++ [' ']) ++ '|' :: more := by
    simp
  rw [parts, findFirst?_unmarked _ _ unmarked]

/-! ### The method's column -/

/-- A path is read behind a mark, blanks, letters and blanks, up to the first character that cannot
belong to it. -/
theorem pathAfterMark?_of_parts {padding letters blanks segments more : List Char}
    (blankPadding : ∀ char ∈ padding, isBlank char = true)
    (someLetter : letters ≠ []) (allLetters : ∀ char ∈ letters, isMethodChar char = true)
    (someBlank : blanks ≠ []) (allBlank : ∀ char ∈ blanks, isBlank char = true)
    (allPath : ∀ char ∈ '/' :: segments, isPathChar char = true)
    (ends : ∀ char ∈ more.head?, isPathChar char = false) :
    pathAfterMark? ('|' :: (padding ++ (letters ++ (blanks ++ ('/' :: segments ++ more))))) =
      some ('/' :: segments) := by
  obtain ⟨letter, otherLetters, rfl⟩ := List.exists_cons_of_ne_nil someLetter
  obtain ⟨blank, otherBlanks, rfl⟩ := List.exists_cons_of_ne_nil someBlank
  have isLetter : isMethodChar letter = true := allLetters letter List.mem_cons_self
  have isBlankHere : isBlank blank = true := allBlank blank List.mem_cons_self
  have noLetter : isMethodChar blank = false := isMethodChar_of_isBlank isBlankHere
  have column : (padding ++ (letter :: otherLetters ++
      (blank :: otherBlanks ++ ('/' :: segments ++ more)))).dropWhile isBlank =
        letter :: otherLetters ++ (blank :: otherBlanks ++ ('/' :: segments ++ more)) := by
    refine dropWhile_append_of_head? blankPadding fun char atHead => ?_
    obtain rfl := Option.some.inj atHead
    exact isBlank_of_isMethodChar isLetter
  have afterMethod : (letter :: otherLetters ++
      (blank :: otherBlanks ++ ('/' :: segments ++ more))).dropWhile isMethodChar =
        blank :: otherBlanks ++ ('/' :: segments ++ more) := by
    rw [List.dropWhile_append_of_pos allLetters, List.cons_append,
      List.dropWhile_cons_of_neg (by rw [noLetter]; decide)]
  have path : (blank :: otherBlanks ++ ('/' :: segments ++ more)).dropWhile isBlank =
      '/' :: segments ++ more := by
    refine dropWhile_append_of_head? allBlank fun char atHead => ?_
    obtain rfl := Option.some.inj atHead
    decide
  have taken : ('/' :: segments ++ more).takeWhile isPathChar = '/' :: segments := by
    rw [List.takeWhile_append_of_pos allPath]
    cases more with
    | nil => simp
    | cons char rest => simp [ends char rfl]
  have unquoted : skipQuote ('/' :: segments ++ more) = '/' :: segments ++ more := rfl
  rw [pathAfterMark?, column, afterMethod, path, unquoted, taken]
  simp [isLetter, isBlankHere]

/-- **The method's column yields the path.** -/
theorem pathAfterMark?_request {method path : String} (more : List Char) (isMethod : IsMethod method)
    (isPath : IsPlainPath path) :
    pathAfterMark? ('|' :: ' ' ::
        (toLeft 7 method.toList ++ ' ' :: (path.toList ++ ' ' :: more))) = some path.toList := by
  obtain ⟨nonempty, letters⟩ := isMethod
  obtain ⟨rooted, plain⟩ := isPath
  obtain ⟨segments, parts⟩ : ∃ segments, path.toList = '/' :: segments :=
    ⟨path.toList.tail, List.eq_cons_of_mem_head? rooted⟩
  have gap : ∀ char ∈ List.replicate (7 - method.toList.length) ' ' ++ [' '],
      isBlank char = true := by
    intro char member
    rw [← List.replicate_succ'] at member
    rw [List.eq_of_mem_replicate member]
    decide
  rw [parts] at plain ⊢
  have read := @pathAfterMark?_of_parts [' '] _ _ _ (' ' :: more)
    (List.all_eq_true.mp (by decide))
    (fun isEmpty => nonempty (String.toList_eq_nil_iff.mp isEmpty)) letters
    (List.append_ne_nil_of_right_ne_nil _ (List.cons_ne_nil ' ' [])) gap plain
    (fun char atHead => by obtain rfl := Option.some.inj atHead; decide)
  rw [← read, toLeft, List.rightpad]
  simp

/-! ### Whole lines -/

/-- The columns of a line one behind the other, each with the mark in front of it. -/
theorem inColumns_eq (record : Record) :
    record.inColumns = ("[GIN] ".toList ++ record.time.date '/' ++ " - ".toList ++
        record.time.clock ++ [' ']) ++
      '|' :: ' ' :: (record.statusColumn ++ ' ' ::
      '|' :: ' ' :: (record.latencyColumn ++ ' ' ::
      '|' :: ' ' :: (toRight 15 record.clientAddress.toList ++ ' ' ::
      '|' :: ' ' :: (toLeft 7 record.method.toList ++ ' ' :: (record.path.toList ++ ' ' ::
        '|' :: ' ' :: record.remark.toList))))) := by
  have mark : " | ".toList = [' ', '|', ' '] := rfl
  unfold Record.inColumns
  simp only [mark, List.append_assoc, List.cons_append, List.nil_append]

theorem statusColumn_eq (record : Record) :
    ∃ text, record.statusColumn = toRight 3 text ∧ ∀ char ∈ text, isColumnChar char = true := by
  cases known : record.status with
  | some status =>
    exact ⟨decimal status, by rw [Record.statusColumn, known], isColumnChar_decimal status⟩
  | none => exact ⟨['-'], by rw [Record.statusColumn, known], List.all_eq_true.mp (by decide)⟩

theorem latencyColumn_eq (record : Record) :
    ∃ text, record.latencyColumn = toRight 13 text ∧ ∀ char ∈ text, isColumnChar char = true := by
  cases known : record.latency with
  | some latency =>
    exact ⟨latency.shown.toList, by rw [Record.latencyColumn, known], isColumnChar_shown latency⟩
  | none => exact ⟨['-'], by rw [Record.latencyColumn, known], List.all_eq_true.mp (by decide)⟩

/-- **The path of a record is found again in its line.** -/
theorem requestPath?_render {record : Record} (isMethod : IsMethod record.method)
    (isPath : IsPlainPath record.path) (isAddress : IsPlainAddress record.clientAddress) :
    requestPath? (Layout.columns.render record) = some record.path := by
  obtain ⟨status, statusColumn, statusFits⟩ := statusColumn_eq record
  obtain ⟨latency, latencyColumn, latencyFits⟩ := latencyColumn_eq record
  have unmarked : '|' ∉ "[GIN] ".toList ++ record.time.date '/' ++ " - ".toList ++
      record.time.clock ++ [' '] := by
    simp [mark_not_mem_date record.time '/' (by decide), mark_not_mem_clock]
  rw [requestPath?, Layout.render, String.toList_ofList, inColumns_eq, statusColumn, latencyColumn,
    findFirst?_unmarked _ _ unmarked, findFirst?_column 3 _ statusFits,
    findFirst?_column 13 _ latencyFits, findFirst?_column 15 _ isAddress, findFirst?,
    pathAfterMark?_request _ isMethod isPath]
  simp

theorem isAccessLine_render (record : Record) :
    isAccessLine (Layout.columns.render record) = true := by
  rw [isAccessLine, Layout.render, String.toList_ofList, occurs_iff]
  refine ⟨record.inColumns, List.suffix_rfl, ?_⟩
  rw [List.isPrefixOf_iff_prefix, inColumns_eq]
  exact ⟨_, rfl⟩

/-- A path is ignored exactly when it starts as an ignored one, its query aside. -/
theorem classify_eq_ignored_iff (classifier : Classifier) (path : String) :
    classifier.classify path = .ignored ↔ classifier.isIgnored (withoutQuery path) = true := by
  rw [Classifier.classify, Classifier.classifyPath]
  by_cases ignored : classifier.isIgnored (withoutQuery path) = true
  · rw [if_pos ignored]
    exact iff_of_true rfl ignored
  · rw [if_neg ignored]
    refine iff_of_false (fun same => ?_) ignored
    split at same
    · cases same
    · split at same
      · cases same
      · split at same <;> cases same

/-- What is decided on a line of the access log whose path is known. -/
theorem forwards_of_requestPath? {classifier : Classifier} {line path : String}
    (isAccess : isAccessLine line = true) (found : requestPath? line = some path) :
    classifier.forwards line = false ↔ classifier.classify path = .ignored ∨
      (classifier.isApiPath path = true ∧ classifier.extensions.mentioned line = false) := by
  rw [Classifier.forwards, isAccess, if_pos rfl, found, classify_eq_ignored_iff]
  by_cases ignored : classifier.isIgnored (withoutQuery path) = true
  · simp [ignored]
  · by_cases isApi : classifier.isApiPath path = true
    · simp [ignored, isApi]
    · simp [ignored, isApi]

/-- **A line is decided on as its record would be.** The path is found again, and the line is left out
exactly when the path is ignored, or is that of an interface call and no media file is mentioned. -/
theorem forwards_render (classifier : Classifier) (record : Record)
    (isMethod : IsMethod record.method) (isPath : IsPlainPath record.path)
    (isAddress : IsPlainAddress record.clientAddress) :
    requestPath? (Layout.columns.render record) = some record.path ∧
      (classifier.forwards (Layout.columns.render record) = false ↔
        classifier.classify record.path = .ignored ∨
          (classifier.isApiPath record.path = true ∧
            classifier.extensions.mentioned (Layout.columns.render record) = false)) := by
  have found := requestPath?_render isMethod isPath isAddress
  exact ⟨found, forwards_of_requestPath? (isAccessLine_render record) found⟩

/-- A line whose address has the letters of a method and whose remark has a column mark. -/
theorem forwards_render_marked :
    let classifier : Classifier := ⟨.ofList ["mp4"], ["/static"], "/api/list", "/api/get", []⟩
    let record : Record := ⟨⟨2024, 1, 2, 3, 4, 5⟩, "ABC", "POST", "/api/list?path=/x", "ann", none,
      some ⟨1500⟩, "a | GET /static"⟩
    classifier.forwards (Layout.columns.render record) = false ∧
      requestPath? (Layout.columns.render record) = some "/api/list?path=/x" := by
  intro classifier record
  have general := forwards_render classifier record (by decide) (by decide) (by decide)
  exact ⟨general.2.mpr (Or.inr ⟨by decide, by decide +kernel⟩), general.1⟩

end MediaTrail
