/-
**One exchange in every layout.** An exchange can be told as sentences or in columns, its hits one by one
or together, by their names or with their paths. All of these tell of the same hits in the same order.
Sentences do not depend on how hits are shown and grouped, and the paths that they name are those of
media files. In columns, the line of all hits together has between its brackets what the lines of the
single hits have there, with spaces in between, and is like each of them otherwise.

* `Layout.render_eq`: a line is the stamp of its time, and a text that the time does not enter;
* `isMedia_joinPath`: a path has the extension of its last name;
* `map_listHits`: the style of paths changes how hits are shown, and nothing else;
* `Settings.linesOf_eq`: the lines of an exchange are those of its records;
* `lines_of_layouts`: the lines of an exchange in every layout.
-/

import MediaTrail.Proofs.KeptLines
import MediaTrail.Proofs.LoggedLines
import MediaTrail.Proofs.MediaNames

namespace MediaTrail

open Text

/-! ### Lines but for their stamps -/

/-- How a line in columns begins. -/
def Timestamp.inColumns (time : Timestamp) : List Char :=
  "[GIN] ".toList ++ time.date '/' ++ " - ".toList ++ time.clock

/-- How a sentence begins. -/
def Timestamp.inSentence (time : Timestamp) : List Char :=
  "时间：".toList ++ time.date '-' ++ ' ' :: time.clock

/-- How a line begins: with the time of its record. -/
def Layout.stamp (layout : Layout) (time : Timestamp) : String :=
  String.ofList (match layout with
    | .columns => time.inColumns
    | .sentence => time.inSentence)

/-- The columns of an exchange between the stamp and the remark. -/
def Exchange.inColumns (exchange : Exchange) (latency : Span) : List Char :=
  " | ".toList ++ toRight 3 (decimal exchange.status) ++
    " | ".toList ++ toRight 13 latency.shown.toList ++
    " | ".toList ++ toRight 15 exchange.visit.clientAddress.toList ++
    " | ".toList ++ toLeft 7 exchange.visit.method.toList ++
    ' ' :: exchange.visit.path.toList ++ " | ".toList

/-- The same as a text. -/
def Exchange.columns (exchange : Exchange) (latency : Span) : String :=
  String.ofList (exchange.inColumns latency)

/-- What a sentence says behind its stamp of a file that a visitor was told of. -/
def Visit.sentence (visit : Visit) (path : String) : String :=
  " 访问IP：" ++ visit.clientAddress ++ " 访问路径：" ++ path ++ " 用户：" ++ visit.user

theorem render_columns (time : Timestamp) (exchange : Exchange) (latency : Span) (remark : String) :
    Layout.columns.render (.ofVisit time exchange.visit exchange.status latency remark) =
      Layout.columns.stamp time ++ exchange.columns latency ++ remark := by
  have split (mark between date clock status shown address method path remark : List Char) :
      mark ++ date ++ between ++ clock ++ " | ".toList ++ status ++ " | ".toList ++ shown ++
          " | ".toList ++ address ++ " | ".toList ++ method ++ ' ' :: path ++ " | ".toList ++ remark =
        mark ++ date ++ between ++ clock ++ (" | ".toList ++ status ++ " | ".toList ++ shown ++
          " | ".toList ++ address ++ " | ".toList ++ method ++ ' ' :: path ++ " | ".toList) ++
          remark := by
    generalize " | ".toList = bar
    simp only [List.append_assoc, List.cons_append]
  rw [← String.toList_inj, String.toList_append, String.toList_append, Layout.stamp,
    Exchange.columns, Layout.render, String.toList_ofList, String.toList_ofList, String.toList_ofList]
  exact split _ _ _ _ _ _ _ _ _ _

theorem render_sentence (time : Timestamp) (visit : Visit) (status : Nat) (latency : Span)
    (path : String) :
    Layout.sentence.render { Record.ofVisit time visit status latency "" with path := path } =
      Layout.sentence.stamp time ++ visit.sentence path := by
  have split (mark date clock first address second path third user : List Char) :
      mark ++ date ++ ' ' :: clock ++ first ++ address ++ second ++ path ++ third ++ user =
        mark ++ date ++ ' ' :: clock ++ (first ++ address ++ second ++ path ++ third ++ user) := by
    simp only [List.append_assoc, List.cons_append]
  have spelled : visit.sentence path =
      " 访问IP：" ++ visit.clientAddress ++ " 访问路径：" ++ path ++ " 用户：" ++ visit.user := rfl
  rw [← String.toList_inj, String.toList_append, Layout.stamp, spelled, Layout.render,
    String.toList_ofList, String.toList_ofList, String.toList_append, String.toList_append,
    String.toList_append, String.toList_append, String.toList_append]
  exact split _ _ _ _ _ _ _ _ _

/-! ### Hits in either style -/

/-- A path has the extension of the name that it ends with. -/
theorem isMedia_of_endsWith {extensions : Extensions} {path name : String} {front : List Char}
    (parts : path.toList = front ++ name.toList) (isMedia : extensions.isMedia name = true) :
    extensions.isMedia path = true := by
  rw [Extensions.isMedia] at isMedia ⊢
  cases found : extension? name.toList with
  | none =>
    rw [found] at isMedia
    cases isMedia
  | some ext =>
    obtain ⟨⟨before, nameParts⟩, isExtension⟩ := extension?_eq_some_iff.mp found
    have ofPath : extension? path.toList = some ext := by
      refine extension?_eq_some_iff.mpr ⟨⟨front ++ before, ?_⟩, isExtension⟩
      rw [parts, nameParts, List.append_assoc]
    rw [found] at isMedia
    rw [ofPath]
    exact isMedia

/-- The file of a listing, with its directory, is a media file like its name. -/
theorem isMedia_joinPath {extensions : Extensions} {name : String} (directory : String)
    (isMedia : extensions.isMedia name = true) :
    extensions.isMedia (joinPath directory name) = true := by
  obtain ⟨front, parts⟩ := exists_toList_joinPath directory name
  exact isMedia_of_endsWith parts isMedia

/-- The style of paths changes how the files of a listing are shown, and nothing else. -/
theorem map_listHits {α : Type} {tell : Hit → α}
    (hides : ∀ name path shown other, tell ⟨name, path, shown⟩ = tell ⟨name, path, other⟩)
    (extensions : Extensions) (style other : PathStyle) (response : Bytes) :
    ((Inspector.mk extensions style).listHits response).map tell =
      ((Inspector.mk extensions other).listHits response).map tell := by
  simp only [Inspector.listHits]
  cases decode? Listing.read response with
  | none => rfl
  | some listing =>
    simp only [Listing.hits]
    by_cases succeeded : listing.code = successCode
    · rw [if_pos succeeded, if_pos succeeded, List.map_map, List.map_map]
      exact List.map_congr_left fun entry _ => hides _ _ _ _
    · rw [if_neg succeeded, if_neg succeeded]

/-- An object is at most one hit. -/
theorem getHits_eq (inspector : Inspector) (response : Bytes) :
    inspector.getHits response = [] ∨ ∃ hit, inspector.getHits response = [hit] := by
  rw [Inspector.getHits]
  cases decode? Description.read response with
  | none => exact .inl rfl
  | some answer =>
    by_cases isHit : answer.code = successCode ∧ answer.entry.isMedia inspector.extensions
    · exact .inr ⟨_, if_pos isHit⟩
    · exact .inl (if_neg isHit)

/-! ### The lines of an exchange -/

/-- Without hits there are no lines, and nothing changes. -/
theorem Trail.logInspection_of_noHits (trail : Trail) (now : Moment) (exchange : Exchange)
    (latency : Span) {inspection : Inspection} (noHits : inspection.hits = []) :
    trail.logInspection now exchange latency inspection = (trail, 0, .regular, []) := by
  rw [logInspection, inspectionRecords, noHits]
  rfl

namespace Settings

variable (settings : Settings) (now : Moment) (exchange : Exchange) (latency : Span)

/-- What an exchange is found to tell. -/
def inspection : Inspection :=
  (Inspector.ofSettings settings).inspect exchange.category exchange.requestBody
    exchange.responseBody

/-- The lines that a sink in memory is given for an exchange. -/
def linesOf : List String :=
  let trail := Trail.ofSettings settings [.memory .empty]
  (trail.logInspection now exchange latency (settings.inspection exchange)).1.sinks.flatMap
    fun sink => sink.lines?.getD []

/-- The lines of an exchange are those of its records. -/
theorem linesOf_eq : settings.linesOf now exchange latency =
    ((Trail.ofSettings settings []).inspectionRecords now exchange latency
      (settings.inspection exchange)).map settings.layout.render := by
  have staysUp : ∀ sink ∈ (Trail.ofSettings settings [.memory .empty]).sinks, sink.StaysUp :=
    List.forall_mem_singleton.mpr trivial
  have taken := Trail.sinks_emitAll (Trail.finish_emitAll staysUp
    ((Trail.ofSettings settings [.memory .empty]).inspectionRecords now exchange latency
      (settings.inspection exchange)))
  have row : (Trail.ofSettings settings [.memory .empty]).sinks = [.memory .empty] := rfl
  rw [row, List.map_singleton, Sink.takeAll_memory] at taken
  show (Trail.emitAll _ _).1.sinks.flatMap _ = _
  rw [taken, List.flatMap_singleton]
  show (Journal.empty.append _).toList = _
  rw [Journal.toList_append, Journal.toList_empty, List.nil_append, Trail.entries, List.map_map]
  rfl

theorem linesOf_of_noHits (noHits : (settings.inspection exchange).hits = []) :
    settings.linesOf now exchange latency = [] := by
  rw [linesOf_eq, Trail.inspectionRecords, noHits]
  rfl

/-- In sentences each hit has its own. -/
theorem linesOf_sentence (sentence : settings.layout = .sentence) :
    settings.linesOf now exchange latency = (settings.inspection exchange).hits.map fun hit =>
      Layout.sentence.stamp now.time ++
        exchange.visit.sentence (Trail.auditedPath exchange.category hit) := by
  by_cases noHits : (settings.inspection exchange).hits = []
  · rw [settings.linesOf_of_noHits now exchange latency noHits, noHits]
    rfl
  · have layout : (Trail.ofSettings settings []).layout = .sentence := sentence
    rw [linesOf_eq, Trail.inspectionRecords, if_neg (mt List.isEmpty_iff.mp noHits), Trail.recordsOf,
      layout, sentence]
    simp only [List.map_map]
    exact List.map_congr_left fun hit _ => render_sentence _ _ _ _ _

/-- The paths that sentences name do not depend on how hits are shown. -/
theorem map_auditedPath (settings : Settings) (layout : Layout) (style : PathStyle)
    (grouping : Grouping) (exchange : Exchange) :
    ({ settings with layout := layout, pathStyle := style, grouping := grouping }.inspection
        exchange).hits.map (Trail.auditedPath exchange.category) =
      (settings.inspection exchange).hits.map (Trail.auditedPath exchange.category) := by
  unfold Settings.inspection
  cases exchange.category with
  | listQuery => exact map_listHits (fun _ _ _ _ => rfl) _ style settings.pathStyle _
  | getQuery => rfl
  | ignored | directMedia | other => rfl

/-- In columns the lines of an exchange differ in their remarks only. -/
theorem linesOf_columns (columns : settings.layout = .columns)
    (hasHits : (settings.inspection exchange).hits ≠ []) (remarks : List String)
    (records : (Trail.ofSettings settings []).recordsOf now exchange latency
        (settings.inspection exchange) =
      remarks.map (.ofVisit now.time exchange.visit exchange.status latency)) :
    settings.linesOf now exchange latency = remarks.map fun remark =>
      Layout.columns.stamp now.time ++ exchange.columns latency ++ remark := by
  rw [linesOf_eq, Trail.inspectionRecords, if_neg (mt List.isEmpty_iff.mp hasHits), records, columns,
    List.map_map]
  exact List.map_congr_left fun remark _ => render_columns _ _ _ remark

/-- The line of a listing in front of the files that it shows. -/
def opening : String :=
  Layout.columns.stamp now.time ++ exchange.columns latency ++ "目录: " ++
    (settings.inspection exchange).queriedPath ++ " | 媒体文件: ["

/-- In columns, a listing with a line for each file. -/
theorem linesOf_perHit (columns : settings.layout = .columns) (perHit : settings.grouping = .perHit)
    (isList : exchange.category = .listQuery)
    (hasHits : (settings.inspection exchange).hits ≠ []) :
    settings.linesOf now exchange latency = (settings.inspection exchange).hits.map fun hit =>
      settings.opening now exchange latency ++ hit.shown ++ "]" := by
  have layout : (Trail.ofSettings settings []).layout = .columns := columns
  have grouping : (Trail.ofSettings settings []).grouping = .perHit := perHit
  rw [settings.linesOf_columns now exchange latency columns hasHits
      ((settings.inspection exchange).hits.map fun hit =>
        listRemark (settings.inspection exchange).queriedPath [hit.shown]), List.map_map]
  · refine List.map_congr_left fun hit _ => ?_
    simp only [Function.comp_apply, opening, listRemark, spaced, String.intercalate_singleton,
      String.append_assoc]
  · rw [Trail.recordsOf, layout, isList, grouping, List.map_map]
    rfl

/-- In columns, a listing with all its files in one line. -/
theorem linesOf_aggregated (columns : settings.layout = .columns)
    (aggregated : settings.grouping = .aggregated) (isList : exchange.category = .listQuery)
    (hasHits : (settings.inspection exchange).hits ≠ []) :
    settings.linesOf now exchange latency = [settings.opening now exchange latency ++
      " ".intercalate ((settings.inspection exchange).hits.map Hit.shown) ++ "]"] := by
  have layout : (Trail.ofSettings settings []).layout = .columns := columns
  have grouping : (Trail.ofSettings settings []).grouping = .aggregated := aggregated
  rw [settings.linesOf_columns now exchange latency columns hasHits
      [listRemark (settings.inspection exchange).queriedPath
        ((settings.inspection exchange).hits.map Hit.shown)], List.map_singleton]
  · simp only [opening, listRemark, spaced, String.append_assoc]
  · rw [Trail.recordsOf, layout, isList, grouping, List.map_singleton]

/-- In columns, an object. -/
theorem linesOf_object (columns : settings.layout = .columns)
    (isGet : exchange.category = .getQuery) {hit : Hit}
    (one : (settings.inspection exchange).hits = [hit]) :
    settings.linesOf now exchange latency =
      [Layout.columns.stamp now.time ++ exchange.columns latency ++ hitRemark hit] := by
  have layout : (Trail.ofSettings settings []).layout = .columns := columns
  have hasHits : (settings.inspection exchange).hits ≠ [] := by
    rw [one]
    exact List.cons_ne_nil _ _
  rw [settings.linesOf_columns now exchange latency columns hasHits [hitRemark hit], List.map_singleton]
  rw [Trail.recordsOf, layout, isGet, one]
  rfl

end Settings

/-- **One exchange in every layout.** Without hits nothing is told. In sentences there is one for each
hit, and they are the same however hits are shown and grouped, but for the time. Those of a listing
name each file with its directory, which are paths of media files; that of an object names its path. In
columns a listing is told with a line for each hit, or in one line that is like these but for what
stands between the brackets: what they have there, with spaces in between. An object is told in one
line, however hits are grouped. -/
theorem lines_of_layouts (settings : Settings) (exchange : Exchange) (latency : Span) :
    let hits := (settings.inspection exchange).hits
    let sentences (style : PathStyle) (grouping : Grouping) (now : Moment) :=
      { settings with layout := .sentence, pathStyle := style, grouping := grouping }.linesOf now
        exchange latency
    let sentence (now : Moment) (path : String) :=
      Layout.sentence.stamp now.time ++ exchange.visit.sentence path
    (hits = [] → ∀ sinks now, (Trail.ofSettings settings sinks).logInspection now exchange latency
        (settings.inspection exchange) = (.ofSettings settings sinks, 0, .regular, [])) ∧
    (exchange.category = .listQuery → hits ≠ [] →
      (∀ style grouping now, sentences style grouping now =
        hits.map fun hit => sentence now (joinPath hit.path hit.name)) ∧
      (∀ hit ∈ hits, (Extensions.ofList settings.extensions).isMedia
        (joinPath hit.path hit.name) = true) ∧
      (∀ now, { settings with layout := .columns, grouping := .perHit }.linesOf now exchange latency =
        hits.map fun hit => settings.opening now exchange latency ++ hit.shown ++ "]") ∧
      ∀ now, { settings with layout := .columns, grouping := .aggregated }.linesOf now exchange
        latency = [settings.opening now exchange latency ++
          " ".intercalate (hits.map Hit.shown) ++ "]"]) ∧
    (exchange.category = .getQuery → hits ≠ [] → ∃ hit, hits = [hit] ∧
      (∀ style grouping now, sentences style grouping now = [sentence now hit.shown]) ∧
      ∀ grouping now,
        { settings with layout := .columns, grouping := grouping }.linesOf now exchange latency =
          [Layout.columns.stamp now.time ++ exchange.columns latency ++
            ("访问媒体文件: " ++ hit.name ++ " | 路径: " ++ hit.shown)]) := by
  intro hits sentences sentence
  have audited (style : PathStyle) (grouping : Grouping) (now : Moment) :
      sentences style grouping now =
        hits.map fun hit => sentence now (Trail.auditedPath exchange.category hit) := by
    have paths := settings.map_auditedPath .sentence style grouping exchange
    have lines := congrArg (List.map (sentence now)) paths
    rw [List.map_map, List.map_map] at lines
    exact (Settings.linesOf_sentence _ now exchange latency rfl).trans lines
  refine ⟨fun noHits sinks now => Trail.logInspection_of_noHits _ now exchange latency noHits,
    fun isList hasHits => ⟨fun style grouping now => ?_, fun hit member => ?_, fun now => ?_,
      fun now => ?_⟩, fun isGet hasHits => ?_⟩
  · rw [audited, isList]
    rfl
  · exact isMedia_joinPath hit.path (isMedia_of_mem_inspect member).1
  · exact Settings.linesOf_perHit { settings with layout := .columns, grouping := .perHit } now
      exchange latency rfl rfl isList hasHits
  · exact Settings.linesOf_aggregated { settings with layout := .columns, grouping := .aggregated }
      now exchange latency rfl rfl isList hasHits
  · have found : hits = (Inspector.ofSettings settings).getHits exchange.responseBody := by
      show (Inspector.inspect _ _ _ _).hits = _
      rw [isGet]
      rfl
    obtain noHits | ⟨hit, one⟩ := getHits_eq (.ofSettings settings) exchange.responseBody
    · exact absurd (found.trans noHits) hasHits
    · refine ⟨hit, found.trans one, fun style grouping now => ?_, fun grouping now => ?_⟩
      · rw [audited, found, one, isGet]
        rfl
      · exact Settings.linesOf_object { settings with layout := .columns, grouping := grouping } now
          exchange latency rfl isGet (found.trans one)

/-- Two files of a listing, one in a directory with a slash at its end and one without a directory, and
an object that is shown by its path. -/
theorem lines_of_two_files :
    let settings : Settings := { extensions := ["mp4"], pathStyle := .joined }
    let now : Moment := ⟨⟨2024, 5, 1, 12, 0, 0⟩, 0⟩
    let visit : Visit := ⟨"/api/fs/list", "/api/fs/list", "POST", "10.1.2.3", "alice"⟩
    let listing : Exchange := ⟨.listQuery, visit, 200, Json.ascii "[\"/m\"]",
      Json.ascii "[200,[[\"a.mp4\",\"/m/\"],[\"c.txt\"],[\"b.MP4\",\"\"]]]", 0⟩
    let object : Exchange := ⟨.getQuery, visit, 200, [], Json.ascii "[200,[\"a.mp4\",\"/m/a\"]]", 0⟩
    let sentence (path : String) := Layout.sentence.stamp now.time ++ visit.sentence path
    (settings.inspection listing).hits =
        [⟨"a.mp4", "/m/", "/m/a.mp4"⟩, ⟨"b.MP4", "", "b.MP4"⟩] ∧
      { settings with layout := .sentence, pathStyle := .name, grouping := .perHit }.linesOf now listing
          ⟨0⟩ = [sentence "/m/a.mp4", sentence "b.MP4"] ∧
      { settings with layout := .columns, grouping := .perHit }.linesOf now listing ⟨0⟩ =
        [settings.opening now listing ⟨0⟩ ++ "/m/a.mp4" ++ "]",
          settings.opening now listing ⟨0⟩ ++ "b.MP4" ++ "]"] ∧
      { settings with layout := .columns, grouping := .aggregated }.linesOf now listing ⟨0⟩ =
        [settings.opening now listing ⟨0⟩ ++ "/m/a.mp4 b.MP4" ++ "]"] ∧
      { settings with layout := .sentence, pathStyle := .name, grouping := .perHit }.linesOf now object
          ⟨0⟩ = [sentence "/m/a"] ∧
      { settings with layout := .columns, grouping := .perHit }.linesOf now object ⟨0⟩ =
        [Layout.columns.stamp now.time ++ object.columns ⟨0⟩ ++
          "访问媒体文件: a.mp4 | 路径: /m/a"] := by
  intro settings now visit listing object sentence
  have files : (settings.inspection listing).hits =
      [⟨"a.mp4", "/m/", "/m/a.mp4"⟩, ⟨"b.MP4", "", "b.MP4"⟩] := by decide +kernel
  have described : (settings.inspection object).hits = [⟨"a.mp4", "/m/a", "/m/a"⟩] := by
    decide +kernel
  obtain ⟨-, listings, -⟩ := lines_of_layouts settings listing ⟨0⟩
  obtain ⟨sentences, -, perHit, aggregated⟩ :=
    listings rfl (by rw [files]; exact List.cons_ne_nil _ _)
  obtain ⟨-, -, objects⟩ := lines_of_layouts settings object ⟨0⟩
  obtain ⟨hit, one, audited, lines⟩ :=
    objects rfl (by rw [described]; exact List.cons_ne_nil _ _)
  obtain rfl : hit = ⟨"a.mp4", "/m/a", "/m/a"⟩ := (List.cons.inj (one.symm.trans described)).1
  have inSentences := sentences .name .perHit now
  rw [files] at inSentences
  refine ⟨files, inSentences, ?_, ?_, audited _ _ _, ?_⟩
  · rw [perHit, files]
    rfl
  · rw [aggregated, files]
    rfl
  · rw [lines]
    rfl

end MediaTrail
