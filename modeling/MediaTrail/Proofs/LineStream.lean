/-
**Streams of lines.** A filter decides once for each buffer, by the whole of its text. A host that
writes each line by itself keeps exactly the lines that are let through. One that gathers lines keeps
the same lines exactly if each line has the verdict of the buffer it stands in; otherwise a line is
lost behind another one, one of another source as well, or gets through behind it.

* `LogLine`, `joined`: lines, and the text of a buffer of lines;
* `joined_inj`: a text is a row of lines in one way only;
* `writeEach_of_takesAll`: what a filter passes on of any buffers;
* `agrees_of_single_or_unmarked`: a line alone, and lines of other sources, have their own verdict;
* `filtered_by_lines_iff`: when a filter keeps the lines that are let through, and no others.
-/

import Mathlib.Data.List.Flatten
import MediaTrail.LineFilter
import MediaTrail.Proofs.LineBreaks

namespace MediaTrail

open Text (Bytes)
open Text.Utf8

/-! ### Lines -/

/-- A line of a log: what stands in front of its newline. -/
@[ext]
structure LogLine where
  content : String
  unbroken : IsUnbroken content

/-- A line as it is written. -/
def LogLine.text (line : LogLine) : String := line.content ++ "\n"

/-- Lines as they stand in one buffer. -/
def joined (lines : List LogLine) : String := String.join (lines.map LogLine.text)

theorem LogLine.toList_text (line : LogLine) : line.text.toList = line.content.toList ++ ['\n'] := by
  simp [text, String.toList_append]

@[simp] theorem toList_joined_nil : (joined []).toList = [] := by
  simp [joined]

@[simp] theorem toList_joined_cons (line : LogLine) (rest : List LogLine) :
    (joined (line :: rest)).toList = line.content.toList ++ '\n' :: (joined rest).toList := by
  simp [joined, String.toList_join, LogLine.toList_text]

@[simp] theorem joined_append (left right : List LogLine) :
    joined (left ++ right) = joined left ++ joined right := by
  apply String.toList_inj.mp
  simp [joined, String.toList_append, String.toList_join]

@[simp] theorem joined_single (line : LogLine) : joined [line] = line.text := by
  apply String.toList_inj.mp
  simp [LogLine.toList_text]

theorem append_newline_inj {first second rest more : List Char} (unbroken : '\n' ∉ first)
    (unbroken' : '\n' ∉ second) (same : first ++ '\n' :: rest = second ++ '\n' :: more) :
    first = second ∧ rest = more := by
  induction first generalizing second with
  | nil =>
    cases second with
    | nil => exact ⟨rfl, (List.cons.inj same).2⟩
    | cons char later => exact absurd ((List.cons.inj same).1 ▸ List.mem_cons_self) unbroken'
  | cons char later ih =>
    cases second with
    | nil => exact absurd ((List.cons.inj same).1 ▸ List.mem_cons_self) unbroken
    | cons char' later' =>
      obtain ⟨rfl, sameLater⟩ := List.cons.inj same
      obtain ⟨rfl, rests⟩ := ih (List.not_mem_of_not_mem_cons unbroken)
        (List.not_mem_of_not_mem_cons unbroken') sameLater
      exact ⟨rfl, rests⟩

/-- **Lines are told apart.** Each newline ends a line, so that a text is a row of lines in one way
only. -/
theorem joined_inj {left right : List LogLine} (same : joined left = joined right) :
    left = right := by
  induction left generalizing right with
  | nil =>
    cases right with
    | nil => rfl
    | cons line rest => simpa using congrArg String.toList same
  | cons line rest ih =>
    cases right with
    | nil => simpa using congrArg String.toList same
    | cons other more =>
      have texts := congrArg String.toList same
      rw [toList_joined_cons, toList_joined_cons] at texts
      obtain ⟨contents, rests⟩ := append_newline_inj line.unbroken other.unbroken texts
      obtain rfl : line = other := LogLine.ext (String.toList_inj.mp contents)
      rw [ih (String.toList_inj.mp rests)]

/-! ### Buffers of text -/

theorem flatten_map_encode_joined (groups : List (List LogLine)) :
    (groups.map fun lines => encode (joined lines)).flatten = encode (joined groups.flatten) := by
  induction groups with
  | nil => rfl
  | cons lines rest ih =>
    rw [List.map_cons, List.flatten_cons, ih, List.flatten_cons, joined_append, encode_append]

/-! ### Writing buffers -/

namespace LineFilter

/-- Writes some buffers, one after the other, and tells how each writing ended. -/
def writeEach (filter : LineFilter) : List Bytes → LineFilter × List Written
  | [] => (filter, [])
  | buffer :: rest =>
    let (next, written) := filter.write buffer
    let (last, others) := next.writeEach rest
    (last, written :: others)

/-- A buffer is passed on whole or left out whole, and is reported as written in both cases. -/
theorem write_of_takesAll (classifier : Classifier) {writer : Writer} (takesAll : writer.TakesAll)
    (buffer : Bytes) : ∃ later : Writer,
      write ⟨classifier, writer⟩ buffer = (⟨classifier, later⟩, .done) ∧ later.TakesAll ∧
        later.output = writer.output ++
          if classifier.forwards (lossy buffer) then buffer else [] := by
  by_cases passed : classifier.forwards (lossy buffer) = true
  · obtain ⟨later, wrote, laterTakes, output⟩ := Writer.writeAll_of_takesAll takesAll buffer
    refine ⟨later, ?_, laterTakes, by rw [output, if_pos passed]⟩
    simp only [write, forwards, passed, if_true, wrote]
  · refine ⟨writer, ?_, takesAll, by rw [if_neg passed, List.append_nil]⟩
    exact write_dropped _ _ (Bool.eq_false_iff.mpr passed)

/-- What a filter passes on of any buffers: those whose text is let through. -/
theorem writeEach_of_takesAll (classifier : Classifier) {writer : Writer}
    (takesAll : writer.TakesAll) (buffers : List Bytes) : ∃ later : Writer,
      writeEach ⟨classifier, writer⟩ buffers =
          (⟨classifier, later⟩, List.replicate buffers.length .done) ∧
        later.output = writer.output ++
          (buffers.filter fun buffer => classifier.forwards (lossy buffer)).flatten := by
  induction buffers generalizing writer with
  | nil => exact ⟨writer, rfl, by simp⟩
  | cons buffer rest ih =>
    obtain ⟨next, wrote, nextTakes, output⟩ := write_of_takesAll classifier takesAll buffer
    obtain ⟨later, wroteRest, outputRest⟩ := ih nextTakes
    refine ⟨later, ?_, ?_⟩
    · simp only [writeEach, wrote, wroteRest, List.length_cons, List.replicate_succ]
    · rw [outputRest, output, List.filter_cons, List.append_assoc]
      split <;> simp

end LineFilter

/-! ### Verdicts on lines and on buffers -/

/-- A text without newlines occurs in a row of lines where it occurs in one of them, as one across a
newline would hold it. -/
theorem infix_line_append {mark content rest : List Char} (unbroken : '\n' ∉ mark)
    (nonempty : mark ≠ []) :
    mark <:+: content ++ '\n' :: rest ↔ mark <:+: content ∨ mark <:+: rest := by
  have noStart : ∀ {start}, start <+: '\n' :: rest → '\n' ∉ start → start = [] := by
    rintro (_ | ⟨char, more⟩) isPrefix absent
    · rfl
    · obtain ⟨rfl, -⟩ := List.cons_prefix_cons.mp isPrefix
      exact absurd List.mem_cons_self absent
  constructor
  · intro inside
    rcases List.infix_append_iff.mp inside with inContent | inRest | ⟨left, right, parts, atEnd, atStart⟩
    · exact .inl inContent
    · rcases List.infix_cons_iff.mp inRest with isPrefix | inRest
      · exact absurd (noStart isPrefix unbroken) nonempty
      · exact .inr inRest
    · have nothing : right = [] := noStart atStart fun member =>
        unbroken (parts ▸ List.mem_append_right left member)
      rw [parts, nothing, List.append_nil]
      exact .inl atEnd.isInfix
  · rintro (inContent | inRest)
    · exact inContent.trans (List.prefix_append _ _).isInfix
    · exact inRest.trans ((List.suffix_cons _ _).trans (List.suffix_append _ _)).isInfix

theorem isAccessLine_iff (line : String) :
    isAccessLine line = true ↔ accessMark.toList <:+: line.toList := by
  rw [isAccessLine, occurs_iff, List.infix_iff_prefix_suffix]
  simp only [List.isPrefixOf_iff_prefix, and_comm]

/-- A buffer is marked as its lines are. -/
theorem isAccessLine_joined (lines : List LogLine) :
    isAccessLine (joined lines) = true ↔ ∃ line ∈ lines, isAccessLine line.text = true := by
  have unbroken : '\n' ∉ accessMark.toList := by decide
  have nonempty : accessMark.toList ≠ [] := by decide
  induction lines with
  | nil => simp [isAccessLine_iff, nonempty]
  | cons line rest ih =>
    have marked : isAccessLine line.text = true ↔ accessMark.toList <:+: line.content.toList := by
      rw [isAccessLine_iff, LogLine.toList_text, infix_line_append unbroken nonempty]
      simp [nonempty]
    rw [isAccessLine_iff, toList_joined_cons, infix_line_append unbroken nonempty, ← marked,
      ← isAccessLine_iff]
    simp only [ih, List.mem_cons, exists_eq_or_imp]

/-- Each line of a buffer has the verdict of the buffer. -/
def Classifier.Agrees (classifier : Classifier) (lines : List LogLine) : Prop :=
  ∀ line ∈ lines, classifier.forwards line.text = classifier.forwards (joined lines)

instance (classifier : Classifier) (lines : List LogLine) : Decidable (classifier.Agrees lines) :=
  inferInstanceAs (Decidable (∀ line ∈ lines, _ = _))

/-- A buffer of one line, or of lines of other sources, does not change the verdict on any of them. -/
theorem agrees_of_single_or_unmarked (classifier : Classifier) {lines : List LogLine}
    (plain : lines.length = 1 ∨ ∀ line ∈ lines, isAccessLine line.text = false) :
    classifier.Agrees lines := by
  intro line member
  rcases plain with single | unmarked
  · obtain ⟨only, rfl⟩ := List.length_eq_one_iff.mp single
    rw [List.mem_singleton.mp member, joined_single]
  · have unmarkedBuffer : ¬ isAccessLine (joined lines) = true := fun marked => by
      obtain ⟨other, inside, mark⟩ := (isAccessLine_joined lines).mp marked
      rw [unmarked other inside] at mark
      cases mark
    rw [Classifier.forwards, if_neg (by rw [unmarked line member]; decide), Classifier.forwards,
      if_neg unmarkedBuffer]

section Groups

variable {α : Type} {whole : List α → Bool} {each : α → Bool}

/-- Members that have the verdict of their group are taken with it. -/
theorem flatten_filter_of_agree {groups : List (List α)}
    (agree : ∀ group ∈ groups, ∀ member ∈ group, each member = whole group) :
    (groups.filter whole).flatten = groups.flatten.filter each := by
  induction groups with
  | nil => rfl
  | cons group rest ih =>
    obtain ⟨here, later⟩ := List.forall_mem_cons.mp agree
    rw [List.flatten_cons, List.filter_append, ← ih later]
    by_cases verdict : whole group = true
    · have all : group.filter each = group :=
        List.filter_eq_self.mpr fun member inside => (here member inside).trans verdict
      rw [List.filter_cons_of_pos verdict, List.flatten_cons, all]
    · have noneKept : group.filter each = [] :=
        List.filter_eq_nil_iff.mpr fun member inside => (here member inside).symm ▸ verdict
      rw [List.filter_cons_of_neg verdict, noneKept, List.nil_append]

/-- Groups whose members are all taken hold no more than there is to take. -/
theorem length_flatten_filter_le {groups : List (List α)}
    (taken : ∀ member ∈ (groups.filter whole).flatten, each member = true) :
    (groups.filter whole).flatten.length ≤ (groups.flatten.filter each).length := by
  have kept := (List.filter_sublist (p := whole) (l := groups)).flatten.filter each
  rw [List.filter_eq_self.mpr taken] at kept
  exact kept.length_le

/-- Where the groups give what the members would, no group differs from its members. A member lost
with its group is not made up for by another group, which takes no more than its own. -/
theorem agree_of_flatten_filter {groups : List (List α)}
    (taken : ∀ member ∈ (groups.filter whole).flatten, each member = true)
    (same : (groups.filter whole).flatten = groups.flatten.filter each) :
    ∀ group ∈ groups, ∀ member ∈ group, each member = whole group := by
  induction groups with
  | nil => simp
  | cons group rest ih =>
    rw [List.flatten_cons, List.filter_append] at same
    by_cases verdict : whole group = true
    · rw [List.filter_cons_of_pos verdict, List.flatten_cons] at same taken
      obtain ⟨all, restTaken⟩ := List.forall_mem_append.mp taken
      rw [List.filter_eq_self.mpr all] at same
      refine List.forall_mem_cons.mpr ⟨fun member inside => ?_,
        ih restTaken (List.append_cancel_left same)⟩
      rw [all member inside, verdict]
    · rw [List.filter_cons_of_neg verdict] at same taken
      have noneKept : group.filter each = [] := by
        have fewer := length_flatten_filter_le taken
        rw [same, List.length_append] at fewer
        exact List.length_eq_zero_iff.mp (by omega)
      rw [noneKept, List.nil_append] at same
      refine List.forall_mem_cons.mpr ⟨fun member inside => ?_, ih taken same⟩
      rw [Bool.eq_false_iff.mpr verdict]
      exact Bool.eq_false_iff.mpr (List.filter_eq_nil_iff.mp noneKept member inside)

/-- Groups taken by their own verdict give the members taken by theirs exactly if the verdicts on a
group and on its members agree. -/
theorem flatten_filter_eq_iff (groups : List (List α)) :
    (groups.filter whole).flatten = groups.flatten.filter each ↔
      ∀ group ∈ groups, ∀ member ∈ group, each member = whole group :=
  ⟨fun same => agree_of_flatten_filter
    (fun _ inside => (List.mem_filter.mp (same ▸ inside)).2) same, flatten_filter_of_agree⟩

end Groups

/-! ### What a stream keeps -/

/-- **Which lines are kept.** However lines are gathered into buffers, each buffer is reported as
written. What is passed on are the lines that are let through, in their order and no others, exactly
if in each buffer every line has the verdict of the buffer. So it is where each line of the access log
has a buffer of its own. -/
theorem filtered_by_lines_iff (classifier : Classifier) {writer : Writer}
    (takesAll : writer.TakesAll) (writes : List (List LogLine)) :
    let passed := LineFilter.writeEach ⟨classifier, writer⟩
      (writes.map fun lines => encode (joined lines))
    let kept := writes.flatten.filter fun line => classifier.forwards line.text
    passed.2 = List.replicate writes.length .done ∧
      (passed.1.writer.output = writer.output ++ encode (joined kept) ↔
        ∀ lines ∈ writes, classifier.Agrees lines) ∧
      ((∀ lines ∈ writes, lines.length = 1 ∨ ∀ line ∈ lines, isAccessLine line.text = false) →
        passed.1.writer.output = writer.output ++ encode (joined kept)) := by
  intro passed kept
  obtain ⟨later, wrote, output⟩ := LineFilter.writeEach_of_takesAll classifier takesAll
    (writes.map fun lines => encode (joined lines))
  have isPassed : passed = (⟨classifier, later⟩, List.replicate writes.length .done) := by
    rw [← List.length_map (fun lines => encode (joined lines))]
    exact wrote
  have outputLines : later.output = writer.output ++ encode
      (joined (writes.filter fun lines => classifier.forwards (joined lines)).flatten) := by
    rw [output, List.filter_map, ← flatten_map_encode_joined]
    simp only [Function.comp_def, lossy_encode]
  have keptIff : later.output = writer.output ++ encode (joined kept) ↔
      ∀ lines ∈ writes, classifier.Agrees lines := by
    rw [outputLines, List.append_cancel_left_eq]
    refine Iff.trans ⟨fun same => joined_inj (encode_inj same), fun same => by rw [same]⟩ ?_
    exact flatten_filter_eq_iff writes
  rw [isPassed]
  exact ⟨rfl, keptIff, fun plain => keptIff.mpr fun lines inside =>
    agrees_of_single_or_unmarked classifier (plain lines inside)⟩

/-- Lines written by themselves, behind two of other sources that share a buffer. -/
theorem filtered_by_lines_sample :
    let classifier : Classifier := ⟨.ofList ["mp4"], ["/assets/"], "/api/list", "/api/get", []⟩
    let plain : LogLine := ⟨"listening", by decide⟩
    let asset : LogLine := ⟨"[GIN] | 200 | GET     /assets/a.js", by decide⟩
    let page : LogLine := ⟨"[GIN] | 200 | GET     /movies", by decide⟩
    let writes := [[plain, plain], [asset], [page]]
    (LineFilter.writeEach ⟨classifier, .unlimited⟩
        (writes.map fun lines => encode (joined lines))).1.writer.output =
      encode "listening\nlistening\n[GIN] | 200 | GET     /movies\n" ∧
    ∀ lines ∈ writes, classifier.Agrees lines := by
  intro classifier plain asset page writes
  obtain ⟨-, keptIff, keeps⟩ := filtered_by_lines_iff classifier Writer.unlimited_takesAll writes
  have output := keeps (by decide)
  have kept : joined (writes.flatten.filter fun line => classifier.forwards line.text) =
      "listening\nlistening\n[GIN] | 200 | GET     /movies\n" := by decide +kernel
  have nothing : Writer.unlimited.output = [] := rfl
  have agree := keptIff.mp output
  rw [kept, nothing, List.nil_append] at output
  exact ⟨output, agree⟩

/-- **A line lost behind another.** In one buffer, an ignored access takes a line of another source
with it, and a page of the host lets an ignored access through. -/
theorem lost_behind_ignored_access :
    let classifier : Classifier := ⟨.ofList ["mp4"], ["/assets/"], "/api/list", "/api/get", []⟩
    let plain : LogLine := ⟨"listening", by decide⟩
    let asset : LogLine := ⟨"[GIN] | 200 | GET     /assets/a.js", by decide⟩
    let page : LogLine := ⟨"[GIN] | 200 | GET     /movies", by decide⟩
    let output (writes : List (List LogLine)) : Bytes :=
      (LineFilter.writeEach ⟨classifier, .unlimited⟩
        (writes.map fun lines => encode (joined lines))).1.writer.output
    (isAccessLine plain.text = false ∧ output [[asset], [plain]] = encode plain.text ∧
      output [[asset, plain]] = []) ∧
    (output [[page], [asset]] = encode page.text ∧
      output [[page, asset]] = encode (joined [page, asset])) := by
  intro classifier plain asset page output
  refine ⟨⟨by decide, ?_, ?_⟩, ?_, ?_⟩
  · decide +kernel
  · decide +kernel
  · decide +kernel
  · decide +kernel

end MediaTrail
