/-
**What the sinks of a trail are given.** Every sink gets every record with its line, one after the
other, whatever the others say of it, as long as none goes down. If one does the call ends there: the
sinks have got the records so far, and those behind the one that went down lack the last of them.

* `Sink.StaysUp`: a sink that never goes down over a line;
* `finish_emitAll`: where all sinks stay up, every call comes back;
* `sinks_emitAll`: the sinks after a call that came back;
* `given_emitAll`: the sinks after any call.
-/

import Mathlib.Data.List.Forall2
import MediaTrail.Trail

namespace MediaTrail

/-! ### Sinks that stay up -/

/-- A stream that never goes down. -/
def Writer.StaysUp (writer : Writer) : Prop :=
  ∀ written offers offered, writer.reply written offers offered ≠ .crashes

theorem Writer.staysUp_writeRounds (rounds : Nat) {writer : Writer} (staysUp : writer.StaysUp)
    (bytes : Text.Bytes) :
    (writer.writeRounds rounds bytes).1.StaysUp ∧
      (writer.writeRounds rounds bytes).2 ≠ .crashed := by
  induction rounds generalizing writer bytes with
  | zero => cases bytes <;> exact ⟨staysUp, Written.noConfusion⟩
  | succ rounds ih =>
    cases bytes with
    | nil => exact ⟨staysUp, Written.noConfusion⟩
    | cons byte rest =>
      have still (count : Nat) : (writer.after (byte :: rest) count).StaysUp := staysUp
      unfold writeRounds
      split
      · exact ⟨still 0, Written.noConfusion⟩
      · exact ih (still _) _
      · exact ⟨still 0, Written.noConfusion⟩
      · rename_i crashes
        exact absurd crashes (staysUp _ _ _)

/-- A stream with bounds goes down only where it is made to. -/
theorem Writer.staysUp_limited (chunk capacity : Option Nat) {full : Reply} (other : full ≠ .crashes)
    (flushFault : Option IoFault) : (limited chunk capacity full flushFault).StaysUp := by
  intro written offers offered
  have chosen (count : Nat) : (if count = 0 then full else .takes count) ≠ Reply.crashes := by
    split
    · exact other
    · exact Reply.noConfusion
  exact chosen _

theorem Writer.staysUp_writeAll {writer : Writer} (staysUp : writer.StaysUp) (bytes : Text.Bytes) :
    (writer.writeAll bytes).1.StaysUp ∧ (writer.writeAll bytes).2 ≠ .crashed :=
  staysUp_writeRounds bytes.length staysUp bytes

theorem Writer.staysUp_flush {writer : Writer} (staysUp : writer.StaysUp) :
    writer.flush.1.StaysUp ∧ writer.flush.2 ≠ .crashed := by
  unfold flush
  split <;> exact ⟨staysUp, Written.noConfusion⟩

/-- Gives a sink records with their lines, one after the other. -/
def Sink.takeAll (sink : Sink) (entries : List Entrusted) : Sink :=
  entries.foldl (fun sink entry => (sink.emit entry.1 entry.2).sink) sink

namespace Sink

theorem staysUp_writeLine {writer : Writer} (staysUp : writer.StaysUp) (line : String) :
    (writeLine writer line).1.StaysUp ∧ (writeLine writer line).2 ≠ .crashed := by
  have text := Writer.staysUp_writeAll staysUp (Text.Utf8.encode line)
  unfold writeLine
  split
  · rename_i afterText wrote
    rw [wrote] at text
    have ending := Writer.staysUp_writeAll text.1 [0x0A]
    split
    · rename_i afterEnd wrote
      rw [wrote] at ending
      exact Writer.staysUp_flush ending.1
    · exact ending
  · exact text

/-- A sink that takes or refuses each line, and never goes down over one. The task of a channel may go
down, which is nothing to those who give lines to the channel. -/
def StaysUp : Sink → Prop
  | .console writer _ => writer.StaysUp
  | _ => True

theorem StaysUp.emit {sink : Sink} (staysUp : sink.StaysUp) (record : Record) (line : String) :
    (sink.emit record line).sink.StaysUp ∧ (sink.emit record line).taken ≠ .crashed := by
  cases sink with
  | memory kept | diagnostics => exact ⟨trivial, Taken.noConfusion⟩
  | console writer poisoned =>
    cases poisoned with
    | true => exact ⟨staysUp, Taken.noConfusion⟩
    | false =>
      obtain ⟨still, noCrash⟩ := staysUp_writeLine staysUp line
      simp only [Sink.emit]
      split <;> rename_i wrote <;> rw [wrote] at still noCrash
      · exact ⟨still, Taken.noConfusion⟩
      · exact ⟨still, Taken.noConfusion⟩
      · exact absurd rfl noCrash
  | host behaviour handed =>
    refine ⟨trivial, ?_⟩
    simp only [Sink.emit]
    split <;> exact Taken.noConfusion
  | channel task waiting delegate => cases task <;> exact ⟨trivial, Taken.noConfusion⟩

theorem StaysUp.takeAll {sink : Sink} (staysUp : sink.StaysUp) (entries : List Entrusted) :
    (sink.takeAll entries).StaysUp := by
  induction entries generalizing sink with
  | nil => exact staysUp
  | cons entry rest ih => exact ih (staysUp.emit entry.1 entry.2).1

/-- A sink before and after it was given records, which are the first ones of these. -/
def Given (entries : List Entrusted) (before after : Sink) : Prop :=
  ∃ given, given <+: entries ∧ after = before.takeAll given

/-- A sink that was given nothing. -/
theorem Given.refl (entries : List Entrusted) (sink : Sink) : Given entries sink sink :=
  ⟨[], List.nil_prefix, rfl⟩

end Sink

/-! ### One line -/

namespace Outlets

section

variable (record : Record) (line : String)

theorem emissionsOf_cons_of_crashed {sink : Sink} (crashes : (sink.emit record line).taken = .crashed)
    (behind : List Sink) : emissionsOf record line (sink :: behind) = [sink.emit record line] := by
  simp only [emissionsOf, crashes]

theorem emissionsOf_cons_of_up {sink : Sink} (up : (sink.emit record line).taken ≠ .crashed)
    (behind : List Sink) : emissionsOf record line (sink :: behind) =
      sink.emit record line :: emissionsOf record line behind := by
  rw [emissionsOf]
  split
  · rename_i crashes
    exact absurd crashes up
  · rfl
  · rfl

theorem ofTaken_cons_of_up {taken : Taken} (up : taken ≠ .crashed) (later : List Taken) :
    Finish.ofTaken (taken :: later) = Finish.ofTaken later := by
  cases taken with
  | crashed => exact absurd rfl up
  | accepted | refused reason => rfl

/-- A call that comes back has given the line to all sinks. -/
theorem emissionsOf_of_regular {sinks : List Sink}
    (regular : Finish.ofTaken ((emissionsOf record line sinks).map Emission.taken) = .regular) :
    emissionsOf record line sinks = sinks.map (Sink.emit · record line) := by
  induction sinks with
  | nil => rfl
  | cons sink behind ih =>
    by_cases crashes : (sink.emit record line).taken = .crashed
    · rw [emissionsOf_cons_of_crashed record line crashes, List.map_singleton, crashes] at regular
      cases regular
    · rw [emissionsOf_cons_of_up record line crashes] at regular ⊢
      rw [List.map_cons, ofTaken_cons_of_up crashes] at regular
      rw [ih regular, List.map_cons]

theorem ofTaken_of_staysUp {sinks : List Sink} (staysUp : ∀ sink ∈ sinks, sink.StaysUp) :
    Finish.ofTaken ((emissionsOf record line sinks).map Emission.taken) = .regular := by
  induction sinks with
  | nil => rfl
  | cons sink behind ih =>
    obtain ⟨here, later⟩ := List.forall_mem_cons.mp staysUp
    have up := (here.emit record line).2
    rw [emissionsOf_cons_of_up record line up, List.map_cons, ofTaken_cons_of_up up, ih later]

end

/-- Every sink is given the line, or nothing. -/
theorem given_emit (outlets : Outlets) (record : Record) (line : String) :
    List.Forall₂ (Sink.Given [(record, line)]) outlets.sinks (outlets.emit record line).1.sinks := by
  show List.Forall₂ _ outlets.sinks ((emissionsOf record line outlets.sinks).map Emission.sink ++
    outlets.sinks.drop (emissionsOf record line outlets.sinks).length)
  induction outlets.sinks with
  | nil => exact .nil
  | cons sink behind ih =>
    have here : Sink.Given [(record, line)] sink (sink.emit record line).sink :=
      ⟨[(record, line)], List.prefix_rfl, rfl⟩
    by_cases crashes : (sink.emit record line).taken = .crashed
    · rw [emissionsOf_cons_of_crashed record line crashes]
      exact .cons here (List.forall₂_same.mpr fun other _ => .refl _ other)
    · rw [emissionsOf_cons_of_up record line crashes]
      exact .cons here ih

end Outlets

/-! ### Some records -/

namespace Trail

/-- Records with the lines that tell of them. -/
def entries (trail : Trail) (records : List Record) : List Entrusted :=
  records.map fun record => (record, trail.layout.render record)

/-- Giving a record to sinks changes nothing but the sinks. -/
theorem emit_eq (trail : Trail) (record : Record) :
    (trail.emit record).1 = { trail with outlets := (trail.emit record).1.outlets } := rfl

theorem emitAll_cons_of_crashed {trail : Trail} {record : Record}
    (crashed : (trail.emit record).2.1 = .crashed) (later : List Record) :
    trail.emitAll (record :: later) = trail.emit record := by
  rcases result : trail.emit record with ⟨after, finish, events⟩
  rw [result] at crashed
  obtain rfl : finish = .crashed := crashed
  simp only [emitAll, result]

theorem emitAll_cons_of_regular {trail : Trail} {record : Record}
    (regular : (trail.emit record).2.1 = .regular) (later : List Record) :
    trail.emitAll (record :: later) =
      (((trail.emit record).1.emitAll later).1, ((trail.emit record).1.emitAll later).2.1,
        (trail.emit record).2.2 ++ ((trail.emit record).1.emitAll later).2.2) := by
  rcases result : trail.emit record with ⟨after, finish, events⟩
  rw [result] at regular
  obtain rfl : finish = .regular := regular
  simp only [emitAll, result]

/-- Giving records to sinks changes nothing but the sinks. -/
theorem emitAll_eq (trail : Trail) (records : List Record) :
    (trail.emitAll records).1 = { trail with outlets := (trail.emitAll records).1.outlets } := by
  induction records generalizing trail with
  | nil => rfl
  | cons record later ih =>
    cases finish : (trail.emit record).2.1 with
    | crashed => rw [emitAll_cons_of_crashed finish, ← emit_eq]
    | regular =>
      rw [emitAll_cons_of_regular finish, ih, emit_eq]

/-! #### Calls that come back -/

theorem finish_emit {trail : Trail} (staysUp : ∀ sink ∈ trail.sinks, sink.StaysUp)
    (record : Record) : (trail.emit record).2.1 = .regular :=
  Outlets.ofTaken_of_staysUp record (trail.layout.render record) staysUp

/-- A call that comes back has given the record to all sinks. -/
theorem sinks_emit {trail : Trail} {record : Record} (regular : (trail.emit record).2.1 = .regular) :
    (trail.emit record).1.sinks = trail.sinks.map (Sink.takeAll · (trail.entries [record])) := by
  have all := Outlets.emissionsOf_of_regular record (trail.layout.render record) regular
  show (Outlets.emissionsOf record (trail.layout.render record) trail.outlets.sinks).map
    Emission.sink ++ trail.outlets.sinks.drop _ = trail.outlets.sinks.map _
  rw [all, List.length_map, List.drop_length, List.append_nil, List.map_map]
  rfl

theorem staysUp_emit {trail : Trail} (staysUp : ∀ sink ∈ trail.sinks, sink.StaysUp)
    (record : Record) : ∀ sink ∈ (trail.emit record).1.sinks, sink.StaysUp := by
  rw [sinks_emit (finish_emit staysUp record)]
  exact List.forall_mem_map.mpr fun sink member => (staysUp sink member).takeAll _

/-- Where all sinks stay up, every call comes back. -/
theorem finish_emitAll {trail : Trail} (staysUp : ∀ sink ∈ trail.sinks, sink.StaysUp)
    (records : List Record) : (trail.emitAll records).2.1 = .regular := by
  induction records generalizing trail with
  | nil => rfl
  | cons record later ih =>
    rw [emitAll_cons_of_regular (finish_emit staysUp record)]
    exact ih (staysUp_emit staysUp record)

/-- A call that comes back has given all records to all sinks, in their order. -/
theorem sinks_emitAll {trail : Trail} {records : List Record}
    (regular : (trail.emitAll records).2.1 = .regular) : (trail.emitAll records).1.sinks =
      trail.sinks.map (Sink.takeAll · (trail.entries records)) := by
  induction records generalizing trail with
  | nil => exact (List.map_id _).symm
  | cons record later ih =>
    cases finish : (trail.emit record).2.1 with
    | crashed =>
      rw [emitAll_cons_of_crashed finish, finish] at regular
      cases regular
    | regular =>
      rw [emitAll_cons_of_regular finish] at regular ⊢
      rw [ih regular, sinks_emit finish, List.map_map]
      rfl

/-! #### Any calls -/

/-- **Every sink is given the first ones of some records**, whatever comes of them. -/
theorem given_emitAll (trail : Trail) (records : List Record) :
    List.Forall₂ (Sink.Given (trail.entries records)) trail.sinks
      (trail.emitAll records).1.sinks := by
  induction records generalizing trail with
  | nil => exact List.forall₂_same.mpr fun sink _ => .refl _ sink
  | cons record later ih =>
    cases finish : (trail.emit record).2.1 with
    | crashed =>
      rw [emitAll_cons_of_crashed finish]
      refine (trail.outlets.given_emit record (trail.layout.render record)).imp ?_
      rintro before after ⟨given, first, taken⟩
      exact ⟨given, first.trans (List.prefix_append [_] (trail.entries later)), taken⟩
    | regular =>
      rw [emitAll_cons_of_regular finish]
      have behind := ih (trail.emit record).1
      rw [sinks_emit finish, List.forall₂_map_left_iff] at behind
      refine behind.imp ?_
      rintro before after ⟨given, first, taken⟩
      exact ⟨(record, trail.layout.render record) :: given, List.cons_prefix_cons.mpr ⟨rfl, first⟩,
        taken⟩

/-! #### Accesses -/

theorem emitAll_singleton (trail : Trail) (record : Record) :
    trail.emitAll [record] = trail.emit record := by
  cases finish : (trail.emit record).2.1 with
  | crashed => rw [emitAll_cons_of_crashed finish]
  | regular => rw [emitAll_cons_of_regular finish, emitAll, ← finish, List.append_nil]

/-- A direct access is one record. -/
theorem logDirect_eq (trail : Trail) (now : Moment) (visit : Visit) (status : Nat)
    (latency : Span) : trail.logDirect now visit status latency =
      trail.emitAll [directRecord now visit status latency] :=
  (trail.emitAll_singleton _).symm

end Trail

end MediaTrail
