/-
**Line breaks in log lines.** A console writes a newline behind every line, so that a reader counts on
one line for each record. What a request tells of itself holds no newline: neither its method nor its
target, nor what its header fields say of the client. The names and paths in its bodies may hold one,
though, since a text in them can spell it as an escape, and they are told as they are.

* `isUnbroken_columns`, `isUnbroken_sentence`: which texts of a record break its line;
* `isUnbroken_clientAddress`: what header fields say of an address breaks no line;
* `unbroken_records_iff`: the lines of an exchange are unbroken exactly if the texts are that they
  take from its bodies;
* `shownLines_takeAll_iff`: a console shows as many lines as it took exactly if they are unbroken;
* `unbroken_lines_iff`: both together, for any request.
-/

import MediaTrail.Monitor
import MediaTrail.Proofs.ColumnTexts
import MediaTrail.Proofs.Emission
import MediaTrail.Proofs.Encoding

namespace MediaTrail

open Text

/-- A text without a newline. -/
def IsUnbroken (text : String) : Prop := '\n' ∉ text.toList

instance : DecidablePred IsUnbroken := fun text =>
  inferInstanceAs (Decidable ('\n' ∉ text.toList))

@[simp] theorem isUnbroken_append (left right : String) :
    IsUnbroken (left ++ right) ↔ IsUnbroken left ∧ IsUnbroken right := by
  simp [IsUnbroken, String.toList_append, not_or]

theorem isUnbroken_ofList {text : List Char} : IsUnbroken (String.ofList text) ↔ '\n' ∉ text := by
  rw [IsUnbroken, String.toList_ofList]

/-! ### Records -/

theorem newline_not_mem_of_column {text : List Char}
    (fits : ∀ char ∈ text, isColumnChar char = true) : '\n' ∉ text :=
  fun member => absurd (fits '\n' member) (by decide)

theorem newline_mem_leftpad {width : Nat} {filler : Char} (other : filler ≠ '\n') {text : List Char} :
    '\n' ∈ text.leftpad width filler ↔ '\n' ∈ text := by
  simp [List.leftpad, List.mem_replicate, other.symm]

theorem newline_not_mem_statusColumn (record : Record) : '\n' ∉ record.statusColumn := by
  rw [Record.statusColumn, toRight, newline_mem_leftpad (by decide)]
  cases record.status with
  | some status => exact newline_not_mem_of_column (isColumnChar_decimal status)
  | none => decide

theorem newline_not_mem_latencyColumn (record : Record) : '\n' ∉ record.latencyColumn := by
  rw [Record.latencyColumn, toRight, newline_mem_leftpad (by decide)]
  cases record.latency with
  | some latency => exact newline_not_mem_of_column (isColumnChar_shown latency)
  | none => decide

/-- The time of a record and its numbers break no line. -/
theorem isUnbroken_columns (record : Record) : IsUnbroken (Layout.columns.render record) ↔
    IsUnbroken record.clientAddress ∧ IsUnbroken record.method ∧ IsUnbroken record.path ∧
      IsUnbroken record.remark := by
  have date := newline_not_mem_of_column (isColumnChar_date record.time '/' (by decide))
  have clock := newline_not_mem_of_column (isColumnChar_clock record.time)
  have mark : " | ".toList = [' ', '|', ' '] := rfl
  have opening : "[GIN] ".toList = ['[', 'G', 'I', 'N', ']', ' '] := rfl
  have between : " - ".toList = [' ', '-', ' '] := rfl
  rw [Layout.render, isUnbroken_ofList]
  unfold Record.inColumns
  simp [mark, opening, between, date, clock, newline_not_mem_statusColumn,
    newline_not_mem_latencyColumn, toRight, toLeft, IsUnbroken]

theorem isUnbroken_sentence (record : Record) : IsUnbroken (Layout.sentence.render record) ↔
    IsUnbroken record.clientAddress ∧ IsUnbroken record.path ∧ IsUnbroken record.user := by
  have date := newline_not_mem_of_column (isColumnChar_date record.time '-' (by decide))
  have clock := newline_not_mem_of_column (isColumnChar_clock record.time)
  have opening : '\n' ∉ "时间：".toList := by decide
  have address : '\n' ∉ " 访问IP：".toList := by decide
  have path : '\n' ∉ " 访问路径：".toList := by decide
  have user : '\n' ∉ " 用户：".toList := by decide
  rw [Layout.render, isUnbroken_ofList]
  unfold Record.inSentence
  simp only [List.mem_append, List.mem_cons, date, clock, opening, address, path, user]
  simp [IsUnbroken, and_assoc]

/-! ### What header fields say -/

theorem newline_not_mem_of_readable {value : Bytes} {text : List Char}
    (reads : readable? value = some text) : '\n' ∉ text := by
  unfold readable? at reads
  split at reads
  · rename_i readable
    obtain rfl := Option.some.inj reads
    intro member
    obtain ⟨byte, inValue, isNewline⟩ := List.mem_map.mp member
    have same : byte = 0x0A := by
      have code : (Char.ofUInt8 byte).toNat = 0x0A := by rw [isNewline]; rfl
      exact UInt8.toNat_inj.mp code
    subst same
    exact absurd (List.all_eq_true.mp readable _ inValue) (by decide)
  · cases reads

theorem newline_not_mem_of_field {headers : Headers} {name : String} {text : List Char}
    (reads : headers.text? name = some text) : '\n' ∉ text := by
  obtain ⟨value, -, reads⟩ := Option.bind_eq_some_iff.mp reads
  exact newline_not_mem_of_readable reads

theorem isUnbroken_of_nonBlank {text : List Char} {kept : String} (unbroken : '\n' ∉ text)
    (keeps : nonBlank? text = some kept) : IsUnbroken kept := by
  have trimmed : '\n' ∉ trim text := fun member =>
    unbroken ((List.dropWhile_sublist _).subset (mem_of_mem_trimEndWhere member))
  unfold nonBlank? at keeps
  split at keeps
  · cases keeps
  · rename_i char rest parts
    obtain rfl := Option.some.inj keeps
    rw [isUnbroken_ofList, ← parts]
    exact trimmed

theorem isUnbroken_address (address : Address) : IsUnbroken address.text := by
  rw [Address.text, isUnbroken_ofList]
  exact newline_not_mem_of_column (isColumnChar_address address)

/-- Whatever a client says of its address stays on one line. -/
theorem isUnbroken_clientAddress (headers : Headers) (peer : Peer) :
    IsUnbroken (clientAddress headers peer) := by
  unfold clientAddress
  split
  · rename_i forwarded
    obtain ⟨text, reads, keeps⟩ := Option.bind_eq_some_iff.mp forwarded
    refine isUnbroken_of_nonBlank (fun member => ?_) keeps
    exact newline_not_mem_of_field reads ((List.takeWhile_sublist _).subset member)
  · split
    · rename_i real
      obtain ⟨text, reads, keeps⟩ := Option.bind_eq_some_iff.mp real
      exact isUnbroken_of_nonBlank (newline_not_mem_of_field reads) keeps
    · split
      · exact isUnbroken_address _
      · decide

/-- By what the host knows, a user is named on one line if the host has no other names. -/
theorem isUnbroken_principal (headers : Headers) {peer : Peer}
    (host : ∀ name ∈ peer.principal, IsUnbroken name) :
    IsUnbroken (Identity.principal.user headers peer) := by
  have word : IsUnbroken (credentialWord headers) := by
    unfold credentialWord
    split <;> decide
  dsimp only [Identity.principal]
  cases known : peer.principal with
  | none => exact word
  | some name =>
    dsimp only
    split
    · exact word
    · exact host name known

/-! ### Requests -/

/-- A request as a connection brings it, where a newline would have ended the method or the target. -/
structure Request.IsOnWire {β : Type} (request : Request β) : Prop where
  method : IsUnbroken request.method
  target : IsUnbroken request.target.text

/-- A visit that is told of on one line. -/
structure Visit.IsUnbroken (visit : Visit) : Prop where
  clientAddress : MediaTrail.IsUnbroken visit.clientAddress
  method : MediaTrail.IsUnbroken visit.method
  path : MediaTrail.IsUnbroken visit.path
  user : MediaTrail.IsUnbroken visit.user

theorem isUnbroken_path {target : Target} (unbroken : IsUnbroken target.text) :
    IsUnbroken target.path := by
  unfold Target.text at unbroken
  unfold Target.path
  rw [isUnbroken_ofList] at unbroken ⊢
  cases target with
  | origin resource => exact fun member => unbroken (List.mem_append_left _ member)
  | absolute scheme authority resource =>
    exact fun member => unbroken (List.mem_append_left _ (List.mem_append_right _ member))
  | host authority => exact List.not_mem_nil

theorem isUnbroken_visitOf {monitor : Monitor} {β : Type} {request : Request β}
    (wire : request.IsOnWire)
    (named : IsUnbroken (monitor.identity.user request.headers request.peer)) :
    (monitor.visitOf request).IsUnbroken where
  clientAddress := isUnbroken_clientAddress request.headers request.peer
  method := wire.method
  path := isUnbroken_path wire.target
  user := named

/-! ### What bodies say -/

theorem isUnbroken_spaced (texts : List String) :
    IsUnbroken (spaced texts) ↔ ∀ text ∈ texts, IsUnbroken text := by
  unfold spaced
  induction texts with
  | nil => simp [IsUnbroken]
  | cons first others ih =>
    cases others with
    | nil => simp
    | cons second others =>
      have space : IsUnbroken " " := by decide
      rw [String.intercalate_cons_cons, isUnbroken_append, isUnbroken_append, ih,
        List.forall_mem_cons]
      simp [space]

theorem isUnbroken_listRemark (directory : String) (shown : List String) :
    IsUnbroken (listRemark directory shown) ↔
      IsUnbroken directory ∧ ∀ text ∈ shown, IsUnbroken text := by
  have opening : IsUnbroken "目录: " := by decide
  have between : IsUnbroken " | 媒体文件: [" := by decide
  have ending : IsUnbroken "]" := by decide
  simp [listRemark, isUnbroken_spaced, opening, between, ending]

theorem isUnbroken_hitRemark (hit : Hit) :
    IsUnbroken (hitRemark hit) ↔ IsUnbroken hit.name ∧ IsUnbroken hit.shown := by
  have opening : IsUnbroken "访问媒体文件: " := by decide
  have between : IsUnbroken " | 路径: " := by decide
  unfold hitRemark
  simp [opening, between]

namespace Trail

/-- The texts of an exchange's bodies that its lines take over as they are. -/
def toldTexts (trail : Trail) (category : Category) (inspection : Inspection) : List String :=
  if inspection.hits.isEmpty then []
  else match trail.layout, category with
    | .sentence, .listQuery => inspection.hits.map fun hit => joinPath hit.path hit.name
    | .sentence, _ => inspection.hits.map Hit.shown
    | .columns, .listQuery => inspection.queriedPath :: inspection.hits.map Hit.shown
    | .columns, _ => inspection.hits.flatMap fun hit => [hit.name, hit.shown]

section

variable {visit : Visit} (unbroken : visit.IsUnbroken) (time : Timestamp) (status : Nat)
  (latency : Span)

include unbroken

theorem isUnbroken_columns_ofVisit (remark : String) :
    IsUnbroken (Layout.columns.render (.ofVisit time visit status latency remark)) ↔
      IsUnbroken remark := by
  rw [isUnbroken_columns]
  exact ⟨fun parts => parts.2.2.2,
    fun rest => ⟨unbroken.clientAddress, unbroken.method, unbroken.path, rest⟩⟩

theorem isUnbroken_sentence_ofVisit (remark path : String) :
    IsUnbroken (Layout.sentence.render
      { Record.ofVisit time visit status latency remark with path := path }) ↔ IsUnbroken path := by
  rw [isUnbroken_sentence]
  exact ⟨fun parts => parts.2.1, fun rest => ⟨unbroken.clientAddress, rest, unbroken.user⟩⟩

end

theorem forall_mem_entries (trail : Trail) (records : List Record) :
    (∀ entry ∈ trail.entries records, IsUnbroken entry.2) ↔
      ∀ record ∈ records, IsUnbroken (trail.layout.render record) := by
  simp [entries]

/-- A direct access is told of on one line. -/
theorem unbroken_direct (trail : Trail) {visit : Visit} (unbroken : visit.IsUnbroken) (now : Moment)
    (status : Nat) (latency : Span) :
    ∀ entry ∈ trail.entries [directRecord now visit status latency], IsUnbroken entry.2 := by
  rw [forall_mem_entries, List.forall_mem_singleton]
  cases trail.layout with
  | columns =>
    exact (isUnbroken_columns_ofVisit unbroken now.time status latency _).mpr (by decide)
  | sentence =>
    exact (isUnbroken_sentence_ofVisit unbroken now.time status latency _ _).mpr unbroken.path

/-- **The lines of an exchange** are unbroken exactly if all texts are that they take from its
bodies. -/
theorem unbroken_records_iff (trail : Trail) (now : Moment) {exchange : Exchange}
    (unbroken : exchange.visit.IsUnbroken) (latency : Span) (inspection : Inspection) :
    (∀ entry ∈ trail.entries (trail.inspectionRecords now exchange latency inspection),
        IsUnbroken entry.2) ↔
      ∀ text ∈ trail.toldTexts exchange.category inspection, IsUnbroken text := by
  have columns := isUnbroken_columns_ofVisit unbroken now.time exchange.status latency
  have sentence := isUnbroken_sentence_ofVisit unbroken now.time exchange.status latency ""
  rw [forall_mem_entries]
  unfold inspectionRecords toldTexts
  by_cases missed : inspection.hits.isEmpty = true
  · rw [if_pos missed, if_pos missed]
    simp
  · rw [if_neg missed, if_neg missed]
    obtain ⟨hit, hits, parts⟩ := List.exists_cons_of_ne_nil (mt List.isEmpty_iff.mpr missed)
    unfold recordsOf
    cases trail.layout with
    | sentence => cases exchange.category <;> simp [sentence, auditedPath]
    | columns =>
      cases exchange.category with
      | listQuery =>
        cases trail.grouping with
        | aggregated => simp [columns, isUnbroken_listRemark]
        | perHit =>
          simp only [List.forall_mem_map, columns, isUnbroken_listRemark, List.forall_mem_singleton]
          rw [List.forall_mem_cons, List.forall_mem_map]
          have first : hit ∈ inspection.hits := parts ▸ List.mem_cons_self
          exact ⟨fun each => ⟨(each hit first).1, fun hit member => (each hit member).2⟩,
            fun each hit member => ⟨each.1, each.2 hit member⟩⟩
      | ignored | directMedia | getQuery | other =>
        simp [columns, isUnbroken_hitRemark, List.forall_mem_flatMap, -List.mem_flatMap]

end Trail

/-! ### Consoles -/

/-- A stream that takes every byte offered to it, if not all at once, and that can be flushed. -/
structure Writer.TakesAll (writer : Writer) : Prop where
  takes : ∀ written offers byte rest, ∃ count,
    writer.reply written offers (byte :: rest) = .takes (count + 1)
  flushes : ∀ written offers, writer.flushFault written offers = none

namespace Writer

/-- What a stream does does not change as it goes on. -/
theorem TakesAll.of_behaviour {writer later : Writer} (takesAll : writer.TakesAll)
    (reply : later.reply = writer.reply) (flushFault : later.flushFault = writer.flushFault) :
    later.TakesAll :=
  ⟨reply ▸ takesAll.takes, flushFault ▸ takesAll.flushes⟩

theorem writeRounds_of_takesAll {writer : Writer} (takesAll : writer.TakesAll) {rounds : Nat}
    {bytes : Bytes} (enough : bytes.length ≤ rounds) : ∃ later,
      writer.writeRounds rounds bytes = (later, .done) ∧ later.TakesAll := by
  induction rounds generalizing writer bytes with
  | zero =>
    obtain rfl : bytes = [] := List.length_eq_zero_iff.mp (Nat.le_zero.mp enough)
    exact ⟨writer, by simp [writeRounds], takesAll⟩
  | succ rounds ih =>
    cases bytes with
    | nil => exact ⟨writer, by simp [writeRounds], takesAll⟩
    | cons byte rest =>
      obtain ⟨count, takes⟩ := takesAll.takes writer.written writer.offers byte rest
      have shorter : (rest.drop count).length ≤ rounds := by
        simp only [List.length_drop, List.length_cons] at enough ⊢
        omega
      have goesOn : (writer.after (byte :: rest) (count + 1)).TakesAll :=
        takesAll.of_behaviour rfl rfl
      obtain ⟨later, done, same⟩ := ih goesOn shorter
      exact ⟨later, by rw [writeRounds, takes]; exact done, same⟩

theorem writeAll_of_takesAll {writer : Writer} (takesAll : writer.TakesAll) (bytes : Bytes) :
    ∃ later, writer.writeAll bytes = (later, .done) ∧ later.TakesAll ∧
      later.output = writer.output ++ bytes := by
  obtain ⟨later, done, same⟩ := writeRounds_of_takesAll takesAll (Nat.le_refl bytes.length)
  obtain ⟨count, -, output, all⟩ := writer.writeAll_output bytes
  have written : writer.writeAll bytes = (later, .done) := done
  rw [written] at output all
  obtain rfl := all.mp rfl
  refine ⟨later, written, same, ?_⟩
  rw [output, List.take_length]

end Writer

theorem count_newline_encodeChar (char : Char) :
    (String.utf8EncodeChar char).count 0x0A = if char = '\n' then 1 else 0 := by
  split
  · rename_i newline
    subst newline
    decide
  · rename_i other
    refine List.count_eq_zero.mpr fun member => other ?_
    rcases Utf8.of_mem_encodeChar member with ⟨code, short⟩ | beyond
    · have same : char.toNat = '\n'.toNat := by
        have lowest := congrArg UInt8.toNat code
        rw [UInt8.toNat_ofNat', Nat.mod_eq_of_lt (by omega)] at lowest
        exact lowest.symm
      exact Char.toNat_inj.mp same
    · exact absurd beyond (by decide)

/-- A text is as many lines in bytes as in characters. -/
theorem count_newline_encode (line : String) :
    (Utf8.encode line).count 0x0A = line.toList.count '\n' := by
  rw [Utf8.encode]
  induction line.toList with
  | nil => rfl
  | cons char rest ih =>
    rw [List.flatMap_cons, List.count_append, ih, count_newline_encodeChar, List.count_cons]
    simp only [beq_iff_eq]
    omega

theorem Writer.unlimited_takesAll : Writer.unlimited.TakesAll where
  takes written offers byte rest := ⟨rest.length, by simp [unlimited, limited]⟩
  flushes _ _ := rfl

namespace Sink

/-- How many lines a console shows. -/
def shownLines (sink : Sink) : Nat :=
  match sink.writer? with
  | some writer => writer.output.count 0x0A
  | none => 0

theorem writeLine_of_takesAll {writer : Writer} (takesAll : writer.TakesAll) (line : String) :
    ∃ later, writeLine writer line = (later, .done) ∧ later.TakesAll ∧
      later.output = writer.output ++ (Utf8.encode line ++ [0x0A]) := by
  obtain ⟨first, wrote, firstTakes, firstOutput⟩ :=
    Writer.writeAll_of_takesAll takesAll (Utf8.encode line)
  obtain ⟨second, ended, secondTakes, secondOutput⟩ := Writer.writeAll_of_takesAll firstTakes [0x0A]
  refine ⟨{ second with flushes := second.flushes + 1 }, ?_, secondTakes.of_behaviour rfl rfl, ?_⟩
  · simp only [writeLine, wrote, ended, Writer.flush, secondTakes.flushes]
  · rw [← List.append_assoc, ← firstOutput, ← secondOutput]
    rfl

/-- A console that takes everything shows a line for each one that it is given, and one more for each
newline in it. -/
theorem shownLines_takeAll {writer : Writer} (takesAll : writer.TakesAll) (entries : List Entrusted) :
    ((Sink.console writer false).takeAll entries).shownLines =
      (Sink.console writer false).shownLines +
        (entries.length + (entries.flatMap fun entry => entry.2.toList).count '\n') := by
  induction entries generalizing writer with
  | nil => rfl
  | cons entry rest ih =>
    obtain ⟨later, wrote, laterTakes, output⟩ := writeLine_of_takesAll takesAll entry.2
    have emitted : ((Sink.console writer false).emit entry.1 entry.2).sink =
        .console later false := by
      simp only [emit, wrote]
    have step : (Sink.console later false).shownLines =
        (Sink.console writer false).shownLines + (entry.2.toList.count '\n' + 1) := by
      simp only [shownLines, writer?, innermost, output, List.count_append, count_newline_encode]
      rfl
    rw [takeAll, List.foldl_cons, emitted, ← takeAll, ih laterTakes, step, List.flatMap_cons,
      List.count_append, List.length_cons]
    omega

/-- **One line for each record.** A console shows as many lines as it was given exactly if all of
them are unbroken. -/
theorem shownLines_takeAll_iff {writer : Writer} (takesAll : writer.TakesAll)
    (entries : List Entrusted) : ((Sink.console writer false).takeAll entries).shownLines =
      (Sink.console writer false).shownLines + entries.length ↔
        ∀ entry ∈ entries, IsUnbroken entry.2 := by
  rw [shownLines_takeAll takesAll]
  have allUnbroken : (entries.flatMap fun entry => entry.2.toList).count '\n' = 0 ↔
      ∀ entry ∈ entries, IsUnbroken entry.2 := by
    simp only [List.count_eq_zero, List.mem_flatMap, not_exists, not_and, IsUnbroken]
  rw [← allUnbroken]
  omega

end Sink

/-! ### The lines of a request -/

/-- **Which lines are unbroken.** A direct access is one line, on a console as well. The lines of an
exchange are unbroken, and a console shows one for each record, exactly if no name and no path that
they take from its bodies holds a newline. Here users are named on one line, and no sink goes down. -/
theorem unbroken_lines_iff (monitor : Monitor) {β : Type} {request : Request β}
    (wire : request.IsOnWire)
    (named : IsUnbroken (monitor.identity.user request.headers request.peer)) (category : Category)
    (status started : Nat) (requestBody responseBody : Bytes) (now : Moment) (latency : Span)
    (staysUp : ∀ sink ∈ monitor.trail.sinks, sink.StaysUp) {position : Nat} {writer : Writer}
    (takesAll : writer.TakesAll)
    (console : monitor.trail.sinks[position]? = some (.console writer false)) :
    let trail := monitor.trail
    let visit := monitor.visitOf request
    let exchange : Exchange := ⟨category, visit, status, requestBody, responseBody, started⟩
    let inspection := monitor.inspector.inspect category requestBody responseBody
    let told := trail.toldTexts category inspection
    let direct := trail.logDirect now visit status latency
    let inspected := trail.logInspection now exchange latency inspection
    let shown := (Sink.console writer false).shownLines
    (∀ entry ∈ trail.entries [Trail.directRecord now visit status latency], IsUnbroken entry.2) ∧
      direct.1.sinks[position]?.map Sink.shownLines = some (shown + 1) ∧
      ((∀ entry ∈ trail.entries (trail.inspectionRecords now exchange latency inspection),
        IsUnbroken entry.2) ↔ ∀ text ∈ told, IsUnbroken text) ∧
      (inspected.1.sinks[position]?.map Sink.shownLines = some (shown + inspected.2.1) ↔
        ∀ text ∈ told, IsUnbroken text) := by
  intro trail visit exchange inspection told direct inspected shown
  have unbroken : visit.IsUnbroken := isUnbroken_visitOf wire named
  have directLines := trail.unbroken_direct unbroken now status latency
  have inspectedLines : (∀ entry ∈ trail.entries
      (trail.inspectionRecords now exchange latency inspection), IsUnbroken entry.2) ↔
        ∀ text ∈ told, IsUnbroken text :=
    trail.unbroken_records_iff now unbroken latency inspection
  have given (records : List Record) : (trail.emitAll records).1.sinks[position]? =
      some ((Sink.console writer false).takeAll (trail.entries records)) := by
    rw [Trail.sinks_emitAll (Trail.finish_emitAll staysUp records), List.getElem?_map, console]
    rfl
  refine ⟨directLines, ?_, inspectedLines, ?_⟩
  · have shows := (Sink.shownLines_takeAll_iff takesAll _).mpr directLines
    show (trail.logDirect now visit status latency).1.sinks[position]?.map _ = _
    rw [Trail.logDirect_eq, given]
    exact congrArg some shows
  · have count : inspected.2.1 =
        (trail.entries (trail.inspectionRecords now exchange latency inspection)).length :=
      (List.length_map _).symm
    rw [← inspectedLines, ← Sink.shownLines_takeAll_iff takesAll, ← count]
    show ((trail.emitAll _).1.sinks[position]?.map _ = _) ↔ _
    rw [given]
    exact Option.some_inj

/-- A listing that is told in one line, for a client with an address of its own making. -/
theorem unbroken_lines_of_listing :
    let classifier : Classifier := ⟨.ofList ["mp4"], [], "/api/list", "/api/get", []⟩
    let trail : Trail := ⟨.standard, .columns, .aggregated, 0, .ofList [.console .unlimited false]⟩
    let monitor : Monitor := ⟨classifier, ⟨classifier.extensions, .name⟩, .principal, trail⟩
    let now : Moment := ⟨⟨2024, 1, 2, 3, 4, 5⟩, 0⟩
    let request : Request Body := ⟨"POST", .origin "/api/list".toList,
      [.named "X-Forwarded-For" (Json.ascii "a | b")], ⟨some "ann", none⟩, .empty⟩
    let query := Json.ascii "\x7b\"path\":\"/m\"\x7d"
    let response :=
      Json.ascii "\x7b\"code\":200,\"content\":[\x7b\"name\":\"a.mp4\"\x7d,\x7b\"name\":\"b.mp4\"\x7d]\x7d"
    let exchange : Exchange := ⟨.listQuery, monitor.visitOf request, 200, query, response, 0⟩
    let inspection := monitor.inspector.inspect .listQuery query response
    trail.toldTexts .listQuery inspection = ["/m", "a.mp4", "b.mp4"] ∧
      ∀ entry ∈ trail.entries (trail.inspectionRecords now exchange ⟨7⟩ inspection),
        IsUnbroken entry.2 := by
  intro classifier trail monitor now request query response exchange inspection
  have told : trail.toldTexts .listQuery inspection = ["/m", "a.mp4", "b.mp4"] := by
    decide +kernel
  have wire : request.IsOnWire := ⟨by decide, by decide⟩
  have console : trail.sinks[0]? = some (.console .unlimited false) := rfl
  have staysUp : ∀ sink ∈ trail.sinks, sink.StaysUp :=
    List.forall_mem_singleton.mpr (Writer.staysUp_limited none none Reply.noConfusion none)
  have general := unbroken_lines_iff monitor wire (isUnbroken_principal _ (by decide)) .listQuery 200
    0 query response now ⟨7⟩ staysUp Writer.unlimited_takesAll console
  exact ⟨told, general.2.2.1.mpr (by rw [told]; decide)⟩

/-- **A record on two lines.** A client that asks for a directory may spell a newline in its path, and
goes on with a line of its own making. -/
theorem broken_line_of_query :
    let classifier : Classifier := ⟨.ofList ["mp4"], [], "/api/list", "/api/get", []⟩
    let trail : Trail := ⟨.standard, .columns, .aggregated, 0, .ofList [.console .unlimited false]⟩
    let monitor : Monitor := ⟨classifier, ⟨classifier.extensions, .name⟩, .principal, trail⟩
    let now : Moment := ⟨⟨2024, 1, 2, 3, 4, 5⟩, 0⟩
    let request : Request Body := ⟨"POST", .origin "/api/list".toList, [], {}, .empty⟩
    let query := Json.ascii "\x7b\"path\":\"/m\\nforged\"\x7d"
    let response := Json.ascii "\x7b\"code\":200,\"content\":[\x7b\"name\":\"a.mp4\"\x7d]\x7d"
    let exchange : Exchange := ⟨.listQuery, monitor.visitOf request, 200, query, response, 0⟩
    let inspection := monitor.inspector.inspect .listQuery query response
    let inspected := trail.logInspection now exchange ⟨7⟩ inspection
    request.IsOnWire ∧ inspected.2.1 = 1 ∧
      (¬ ∀ entry ∈ trail.entries (trail.inspectionRecords now exchange ⟨7⟩ inspection),
        IsUnbroken entry.2) ∧
      inspected.1.sinks.map Sink.shownLines = [2] := by
  refine ⟨⟨by decide, by decide⟩, ?_⟩
  decide +kernel

end MediaTrail
