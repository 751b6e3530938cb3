/-
**Lines of records and the line filter.** The trail writes a line for a media file that was accessed or
named in an answer; a filter that reads such lines only has their text. It lets all of them through,
since each one names such a file in front of a blank, a query or a closing bracket.

* `isMedia_of_mem_inspect`: every hit of an inspection is a media file, shown under its name;
* `forwards_of_mentioned`: a line that mentions a media file is let through, unless its path is ignored;
* `logged_lines_forwarded`: all lines that the sinks are given are let through.
-/

import MediaTrail.Proofs.Emission
import MediaTrail.Proofs.MediaMention
import MediaTrail.Proofs.RequestColumn

namespace MediaTrail

open Text (Bytes)

/-! ### Hits -/

/-- A name stands at the end of the path that it is joined to. -/
theorem exists_toList_joinPath (directory name : String) :
    ∃ front, (joinPath directory name).toList = front ++ name.toList := by
  rw [joinPath]
  by_cases isRoot : directory = ""
  · rw [if_pos isRoot]
    exact ⟨[], rfl⟩
  · rw [if_neg isRoot]
    exact ⟨_, by rw [String.toList_append]⟩

theorem exists_toList_show (style : PathStyle) (entry : Entry) :
    ∃ front, (style.show entry).toList = front ++ entry.name.toList := by
  cases style with
  | name => exact ⟨[], rfl⟩
  | joined => exact exists_toList_joinPath entry.path entry.name

/-- Every hit of a listing is a media file, and is shown under its name. -/
theorem isMedia_of_mem_listHits {inspector : Inspector} {response : Bytes} {hit : Hit}
    (member : hit ∈ inspector.listHits response) :
    inspector.extensions.isMedia hit.name = true ∧
      ∃ front, hit.shown.toList = front ++ hit.name.toList := by
  rw [Inspector.listHits] at member
  split at member
  · rename_i listing _
    rw [Listing.hits] at member
    split at member
    · obtain ⟨entry, inListing, rfl⟩ := List.mem_map.mp member
      have isMedia := (List.mem_filter.mp inListing).2
      rw [Entry.isMedia, Bool.and_eq_true] at isMedia
      exact ⟨isMedia.2, exists_toList_show inspector.pathStyle entry⟩
    · cases member
  · cases member

theorem isMedia_of_mem_getHits {inspector : Inspector} {response : Bytes} {hit : Hit}
    (member : hit ∈ inspector.getHits response) :
    inspector.extensions.isMedia hit.name = true := by
  rw [Inspector.getHits] at member
  split at member
  · rename_i answer _
    rw [Description.hits] at member
    split at member
    · rename_i accepted
      have isMedia := accepted.2
      rw [Entry.isMedia, Bool.and_eq_true] at isMedia
      rw [List.mem_singleton.mp member]
      exact isMedia.2
    · cases member
  · cases member

/-! ### Where a line names files -/

/-- The path of a record is followed by a blank in its line. -/
theorem exists_path_inColumns (record : Record) : ∃ left right,
    (Layout.columns.render record).toList = left ++ (record.path.toList ++ ' ' :: right) := by
  have split (front path remark : List Char) : front ++ ' ' :: path ++ " | ".toList ++ remark =
      (front ++ [' ']) ++ (path ++ ' ' :: '|' :: ' ' :: remark) := by
    have mark : " | ".toList = [' ', '|', ' '] := rfl
    simp [mark]
  rw [Layout.render, String.toList_ofList]
  unfold Record.inColumns
  exact ⟨_, _, split _ _ _⟩

theorem exists_remark_inColumns (record : Record) : ∃ left,
    (Layout.columns.render record).toList = left ++ record.remark.toList := by
  rw [Layout.render, String.toList_ofList]
  unfold Record.inColumns
  exact ⟨_, rfl⟩

/-- The first of some texts with spaces between them is followed by a space or by nothing. -/
theorem exists_toList_spaced (first : String) (others : List String) : ∃ rest,
    (spaced (first :: others)).toList = first.toList ++ rest ∧
      ∀ char ∈ rest.head?, char = ' ' := by
  rw [spaced]
  cases others with
  | nil =>
    refine ⟨[], ?_, fun _ member => by cases member⟩
    rw [String.intercalate_singleton, List.append_nil]
  | cons second others =>
    refine ⟨' ' :: (" ".intercalate (second :: others)).toList, ?_, ?_⟩
    · rw [String.intercalate_cons_cons, String.toList_append, String.toList_append,
        List.append_assoc]
      rfl
    · intro char atHead
      exact (Option.some.inj atHead).symm

/-- The remark of a listing names its first file in front of a space or a bracket. -/
theorem exists_name_listRemark {directory name first : String} (others : List String)
    (named : ∃ front, first.toList = front ++ name.toList) : ∃ left next right,
      EndsName next ∧
      (listRemark directory (first :: others)).toList = left ++ (name.toList ++ next :: right) := by
  obtain ⟨front, shownParts⟩ := named
  obtain ⟨rest, parts, spaceFirst⟩ := exists_toList_spaced first others
  have bracket : "]".toList = [']'] := rfl
  rw [listRemark, String.toList_append, String.toList_append, parts, shownParts, bracket]
  generalize ("目录: " ++ directory ++ " | 媒体文件: [").toList = opening
  cases rest with
  | nil =>
    refine ⟨opening ++ front, ']', [], Or.inr (Or.inr rfl), ?_⟩
    simp only [List.append_assoc, List.nil_append]
  | cons space rest =>
    refine ⟨opening ++ front, space, rest ++ [']'], Or.inl (spaceFirst space rfl), ?_⟩
    simp only [List.append_assoc, List.cons_append]

/-- A text between others stands in front of the first character of the next. -/
theorem toList_append_between (opening name after ending : String) {next : Char} {more : List Char}
    (starts : after.toList = next :: more) : (opening ++ name ++ after ++ ending).toList =
      opening.toList ++ (name.toList ++ next :: (more ++ ending.toList)) := by
  rw [String.toList_append, String.toList_append, String.toList_append, starts]
  simp only [List.append_assoc, List.cons_append]

/-- The remark of an object names it in front of a space. -/
theorem exists_name_hitRemark (hit : Hit) : ∃ left next right, EndsName next ∧
    (hitRemark hit).toList = left ++ (hit.name.toList ++ next :: right) := by
  have mark : " | 路径: ".toList = ' ' :: "| 路径: ".toList := by simp
  exact ⟨_, ' ', _, Or.inl rfl, toList_append_between _ _ _ _ mark⟩

/-- A path is the part in front of its query, and the query if there is one. -/
theorem exists_query (path : String) : ∃ query,
    path.toList = (withoutQuery path).toList ++ query ∧ ∀ char ∈ query.head?, char = '?' := by
  refine ⟨path.toList.dropWhile (· != '?'), ?_, ?_⟩
  · rw [withoutQuery, String.toList_ofList, List.takeWhile_append_dropWhile]
  · intro char atHead
    have stopped := List.head?_dropWhile_not (· != '?') path.toList
    rw [Option.mem_def.mp atHead] at stopped
    simpa using stopped

/-! ### Decisions on lines -/

/-- A record that names a media file in its remark makes a line that mentions one. -/
theorem mentioned_of_remark {extensions : Extensions} (ascii : extensions.IsAscii) {name : String}
    (isMedia : extensions.isMedia name = true) {record : Record}
    (named : ∃ left next right, EndsName next ∧
      record.remark.toList = left ++ (name.toList ++ next :: right)) :
    extensions.mentioned (Layout.columns.render record) = true := by
  obtain ⟨left, next, right, ends, parts⟩ := named
  obtain ⟨columns, lineParts⟩ := exists_remark_inColumns record
  rw [parts, ← List.append_assoc] at lineParts
  exact mentioned_of_isMedia ascii isMedia ends lineParts

/-- A record whose path is that of a media file makes a line that mentions one. -/
theorem mentioned_of_path {extensions : Extensions} (ascii : extensions.IsAscii) {record : Record}
    (isMedia : extensions.isMedia (withoutQuery record.path) = true) :
    extensions.mentioned (Layout.columns.render record) = true := by
  obtain ⟨query, pathParts, markFirst⟩ := exists_query record.path
  obtain ⟨left, right, lineParts⟩ := exists_path_inColumns record
  rw [pathParts, List.append_assoc] at lineParts
  cases query with
  | nil => exact mentioned_of_isMedia ascii isMedia (Or.inl rfl) lineParts
  | cons mark query =>
    exact mentioned_of_isMedia ascii isMedia (Or.inr (Or.inl (markFirst mark rfl))) lineParts

/-- A line is let through if its path is not ignored and a media file is mentioned. -/
theorem forwards_of_mentioned {classifier : Classifier} {record : Record}
    (isMethod : IsMethod record.method) (isPath : IsPlainPath record.path)
    (isAddress : IsPlainAddress record.clientAddress)
    (kept : classifier.classify record.path ≠ .ignored)
    (mentioned : classifier.extensions.mentioned (Layout.columns.render record) = true) :
    classifier.forwards (Layout.columns.render record) = true := by
  rw [← Bool.not_eq_false]
  intro leftOut
  rcases (forwards_of_requestPath? (isAccessLine_render record)
    (requestPath?_render isMethod isPath isAddress)).mp leftOut with ignored | ⟨-, unmentioned⟩
  · exact kept ignored
  · rw [mentioned] at unmentioned
    cases unmentioned

/-- A path of a media file is classified by the part in front of its query. -/
theorem isMedia_of_classify {classifier : Classifier} {path : String}
    (direct : classifier.classify path = .directMedia) :
    classifier.extensions.isMedia (withoutQuery path) = true := by
  rw [Classifier.classify, Classifier.classifyPath] at direct
  by_cases isMedia : classifier.extensions.isMedia (withoutQuery path) = true
  · exact isMedia
  · rw [if_neg isMedia] at direct
    split at direct
    · cases direct
    · split at direct
      · cases direct
      · split at direct <;> cases direct

/-! ### Records of exchanges -/

/-- A record of a listing or of an object is that of the visit, with a remark that names a hit. -/
theorem exists_hit_of_mem_records {trail : Trail} (columns : trail.layout = .columns) {now : Moment}
    {exchange : Exchange} {latency : Span} {inspection : Inspection}
    (isQuery : exchange.category = .listQuery ∨ exchange.category = .getQuery)
    (shown : exchange.category = .listQuery → ∀ hit ∈ inspection.hits,
      ∃ front, hit.shown.toList = front ++ hit.name.toList) {record : Record}
    (member : record ∈ trail.inspectionRecords now exchange latency inspection) :
    ∃ remark, record = .ofVisit now.time exchange.visit exchange.status latency remark ∧
      ∃ hit ∈ inspection.hits, ∃ left next right, EndsName next ∧
        remark.toList = left ++ (hit.name.toList ++ next :: right) := by
  rw [Trail.inspectionRecords] at member
  split at member
  · cases member
  · rename_i nonempty
    rw [Trail.recordsOf, columns] at member
    rcases isQuery with isList | isGet
    · rw [isList] at member
      cases grouping : trail.grouping with
      | aggregated =>
        rw [grouping] at member
        obtain ⟨first, others, hits⟩ : ∃ first others, inspection.hits = first :: others :=
          List.exists_cons_of_ne_nil fun empty => nonempty (List.isEmpty_iff.mpr empty)
        have inHits : first ∈ inspection.hits := by
          rw [hits]
          exact List.mem_cons_self
        refine ⟨_, List.mem_singleton.mp member, first, inHits, ?_⟩
        rw [hits, List.map_cons]
        exact exists_name_listRemark _ (shown isList first inHits)
      | perHit =>
        rw [grouping] at member
        obtain ⟨hit, inHits, rfl⟩ := List.mem_map.mp member
        exact ⟨_, rfl, hit, inHits, exists_name_listRemark [] (shown isList hit inHits)⟩
    · rw [isGet] at member
      obtain ⟨hit, inHits, rfl⟩ := List.mem_map.mp member
      exact ⟨_, rfl, hit, inHits, exists_name_hitRemark hit⟩

/-- The hits of an inspection are media files, and those of a listing are shown under their names. -/
theorem isMedia_of_mem_inspect {inspector : Inspector} {category : Category}
    {request response : Bytes} {hit : Hit}
    (member : hit ∈ (inspector.inspect category request response).hits) :
    inspector.extensions.isMedia hit.name = true ∧ (category = .listQuery →
      ∃ front, hit.shown.toList = front ++ hit.name.toList) := by
  cases category with
  | listQuery =>
    have found := isMedia_of_mem_listHits member
    exact ⟨found.1, fun _ => found.2⟩
  | getQuery => exact ⟨isMedia_of_mem_getHits member, fun isList => by cases isList⟩
  | ignored | directMedia | other => cases member

/-- **Every line that the sinks are given is let through.** The line of a direct access names its path,
and those of an exchange name one of its hits. Each sink is given lines of these, in their order, and
where the call comes back all sinks are given all of them. -/
theorem logged_lines_forwarded (classifier : Classifier) (ascii : classifier.extensions.IsAscii)
    (style : PathStyle) (trail : Trail) (columns : trail.layout = .columns) (now : Moment)
    (exchange : Exchange) (latency : Span) (request response : Bytes)
    (isMethod : IsMethod exchange.visit.method) (isPath : IsPlainPath exchange.visit.path)
    (isAddress : IsPlainAddress exchange.visit.clientAddress)
    (classified : exchange.category = classifier.classify exchange.visit.path) :
    (exchange.category = .directMedia →
      let entries := trail.entries [Trail.directRecord now exchange.visit exchange.status latency]
      let logged := trail.logDirect now exchange.visit exchange.status latency
      List.Forall₂ (Sink.Given entries) trail.sinks logged.1.sinks ∧
        (logged.2.1 = .regular → logged.1.sinks = trail.sinks.map (Sink.takeAll · entries)) ∧
        ∀ entry ∈ entries, classifier.forwards entry.2 = true) ∧
    (exchange.category = .listQuery ∨ exchange.category = .getQuery →
      let inspection :=
        Inspector.inspect ⟨classifier.extensions, style⟩ exchange.category request response
      let entries := trail.entries (trail.inspectionRecords now exchange latency inspection)
      let logged := trail.logInspection now exchange latency inspection
      List.Forall₂ (Sink.Given entries) trail.sinks logged.1.sinks ∧
        (logged.2.2.1 = .regular → logged.1.sinks = trail.sinks.map (Sink.takeAll · entries)) ∧
        ∀ entry ∈ entries, classifier.forwards entry.2 = true) := by
  refine ⟨fun isDirect => ?_, fun isQuery =>
    ⟨trail.given_emitAll _, fun regular => Trail.sinks_emitAll regular, ?_⟩⟩
  · intro entries logged
    have told : logged = trail.emitAll _ := trail.logDirect_eq now _ _ _
    rw [told]
    refine ⟨trail.given_emitAll _, fun regular => Trail.sinks_emitAll regular, ?_⟩
    intro entry member
    obtain rfl := List.mem_singleton.mp member
    show classifier.forwards (trail.layout.render _) = true
    rw [columns]
    have direct : classifier.classify exchange.visit.path = .directMedia := classified ▸ isDirect
    refine forwards_of_mentioned isMethod isPath isAddress ?_ ?_
    · show classifier.classify exchange.visit.path ≠ .ignored
      rw [direct]
      decide
    · exact mentioned_of_path ascii (isMedia_of_classify direct)
  · intro entry member
    obtain ⟨record, inRecords, rfl⟩ := List.mem_map.mp member
    obtain ⟨remark, rfl, hit, inHits, named⟩ := exists_hit_of_mem_records columns isQuery
      (fun isList hit inHits => (isMedia_of_mem_inspect inHits).2 isList) inRecords
    show classifier.forwards (trail.layout.render _) = true
    rw [columns]
    refine forwards_of_mentioned isMethod isPath isAddress ?_ ?_
    · show classifier.classify exchange.visit.path ≠ .ignored
      rw [← classified]
      rcases isQuery with isList | isGet
      · rw [isList]
        decide
      · rw [isGet]
        decide
    · exact mentioned_of_remark ascii (isMedia_of_mem_inspect inHits).1 named

/-- A file whose name has a capital extension, listed and asked for. -/
theorem forwards_capital_extension :
    let classifier : Classifier := ⟨.ofList ["mp4"], [], "/api/list", "/api/get", []⟩
    let trail : Trail := ⟨.standard, .columns, .aggregated, 0, .empty⟩
    let now : Moment := ⟨⟨2024, 1, 2, 3, 4, 5⟩, 0⟩
    let listing : Exchange :=
      ⟨.listQuery, ⟨"/api/list", "/api/list", "POST", "10.0.0.1", "ann"⟩, 200, [], [], 0⟩
    let access : Exchange :=
      ⟨.directMedia, ⟨"/d/a.MP4", "/d/a.MP4", "GET", "10.0.0.1", "ann"⟩, 200, [], [], 0⟩
    let response :=
      Json.ascii "\x7b\"code\":200,\"content\":[\x7b\"name\":\"a.MP4\"\x7d]\x7d"
    let inspection :=
      Inspector.inspect ⟨classifier.extensions, .joined⟩ listing.category [] response
    (trail.inspectionRecords now listing ⟨7⟩ inspection).length = 1 ∧
      (∀ entry ∈ trail.entries (trail.inspectionRecords now listing ⟨7⟩ inspection),
        classifier.forwards entry.2 = true) ∧
      ∀ entry ∈ trail.entries [Trail.directRecord now access.visit 200 ⟨7⟩],
        classifier.forwards entry.2 = true := by
  intro classifier trail now listing access response inspection
  have ascii : classifier.extensions.IsAscii := by decide
  have listed := logged_lines_forwarded classifier ascii .joined trail rfl now listing ⟨7⟩ []
    response (by decide) (by decide) (by decide) (by decide)
  have accessed := logged_lines_forwarded classifier ascii .joined trail rfl now access ⟨7⟩ []
    response (by decide) (by decide) (by decide) (by decide)
  exact ⟨by decide +kernel, (listed.2 (Or.inl rfl)).2.2, (accessed.1 rfl).2.2⟩

end MediaTrail
