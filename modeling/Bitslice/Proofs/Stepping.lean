import Bitslice.Proofs.Lengths
import Bitslice.Proofs.Splitting

/-!
# Splitting record by record

`Trace.splitFrom` splits a trace while it reads it, so that it can be seen how
the splitting ends and what has been read by then (`Trace.splitFrom_reads`). It
is the same splitting as the one that reads everything first
(`Trace.split_eq`).
-/

namespace Bitslice

variable {lanes : Lanes}

namespace Trace

section Stepwise

/-- How a splitting ends. -/
inductive SplitEnd where
  /-- There are more writers than lanes. -/
  | crowded
  /-- The stream has broken, or has stopped inside a record. -/
  | unreadable (cause : IoFailure)
  /-- A writer has refused a byte or a flush. -/
  | refused (cause : IoFailure)
  /-- The stream has come to a good end, and everything is written. -/
  | complete

/-- A splitting that has ended. -/
structure SplitRun (lanes : Lanes) (W : Type) where
  /-- How it has ended. -/
  ending : SplitEnd
  /-- The writers. -/
  writers : List W
  /-- The records that have been read. -/
  records : List (Register lanes)
  /-- What is left of the source. -/
  rest : ByteSource

/-- What a splitting answers. -/
def SplitRun.result {W : Type} (run : SplitRun lanes W) : Except IoFailure Nat :=
  match run.ending with
  | .crowded => .error (.tooManyInstances run.writers.length lanes.count)
  | .unreadable cause => .error cause
  | .refused cause => .error cause
  | .complete => .ok run.records.length

variable {W : Type} [ByteSink W]

/-- Splits record by record. Some records are written already, and fewer than eight wait for their
group to be complete. -/
def splitFrom (written waiting : List (Register lanes)) (writers : List W) (source : ByteSource) :
    SplitRun lanes W :=
  match _answered : next? lanes source with
  | (none, rest) =>
    match writeLast waiting writers with
    | (.error cause, writers) => ⟨.refused cause, writers, written ++ waiting, rest⟩
    | (.ok (), writers) => ⟨.complete, writers, written ++ waiting, rest⟩
  | (some (.error cause), rest) => ⟨.unreadable cause, writers, written ++ waiting, rest⟩
  | (some (.ok register), rest) =>
    let group := waiting ++ [register]
    if group.length < 8 then splitFrom written group writers rest
    else
      match writeGroup group writers with
      | (.error cause, writers) => ⟨.refused cause, writers, written ++ group, rest⟩
      | (.ok (), writers) => splitFrom (written ++ group) [] writers rest
termination_by source.size
decreasing_by all_goals exact size_of_next? _answered

/-- Splits a trace record by record. -/
def splitRun (lanes : Lanes) (source : ByteSource) (writers : List W) : SplitRun lanes W :=
  if lanes.count < writers.length then ⟨.crowded, writers, [], source⟩
  else splitFrom [] [] writers source

variable {written waiting : List (Register lanes)} {writers : List W} {source rest : ByteSource}
  {register : Register lanes} {cause : IoFailure}

theorem splitFrom_of_end (answered : next? lanes source = (none, rest)) :
    splitFrom written waiting writers source =
      match writeLast waiting writers with
      | (.error cause, writers) => ⟨.refused cause, writers, written ++ waiting, rest⟩
      | (.ok (), writers) => ⟨.complete, writers, written ++ waiting, rest⟩ := by
  rw [splitFrom]
  split
  · next found => cases answered.symm.trans found; rfl
  · next found => cases answered.symm.trans found
  · next found => cases answered.symm.trans found

theorem splitFrom_of_failure (answered : next? lanes source = (some (.error cause), rest)) :
    splitFrom written waiting writers source =
      ⟨.unreadable cause, writers, written ++ waiting, rest⟩ := by
  rw [splitFrom]
  split
  · next found => cases answered.symm.trans found
  · next found => cases answered.symm.trans found; rfl
  · next found => cases answered.symm.trans found

theorem splitFrom_of_record (answered : next? lanes source = (some (.ok register), rest)) :
    splitFrom written waiting writers source =
      if (waiting ++ [register]).length < 8 then
        splitFrom written (waiting ++ [register]) writers rest
      else
        match writeGroup (waiting ++ [register]) writers with
        | (.error cause, writers) =>
          ⟨.refused cause, writers, written ++ (waiting ++ [register]), rest⟩
        | (.ok (), writers) => splitFrom (written ++ (waiting ++ [register])) [] writers rest := by
  rw [splitFrom]
  split
  · next found => cases answered.symm.trans found
  · next found => cases answered.symm.trans found
  · next found => cases answered.symm.trans found; rfl

/-- Splitting record by record is reading everything first and distributing it then. The induction
is on what is left to be read; the records that wait stand in front of it. -/
theorem splitFrom_eq (written : List (Register lanes)) {waiting : List (Register lanes)}
    (few : waiting.length < 8) (writers : List W) (source : ByteSource) :
    let contents := read lanes source
    let distributed := distribute contents.failure writers (waiting ++ contents.records)
    let run := splitFrom written waiting writers source
    run.result = distributed.1.map
        (fun _ => written.length + waiting.length + contents.records.length) ∧
      run.writers = distributed.2 := by
  induction sizes : source.size using Nat.strongRecOn
    generalizing source written waiting writers with
  | ind size ih =>
    subst sizes
    match answered : next? lanes source with
    | (none, rest) =>
      rw [read, readFrom_of_end answered, splitFrom_of_end answered]
      simp only [List.append_nil, distribute_of_lt few]
      rcases writeLast waiting writers with ⟨cause | ⟨⟩, laters⟩
      · exact ⟨rfl, rfl⟩
      · refine ⟨congrArg Except.ok ?_, rfl⟩
        exact List.length_append
    | (some (.error cause), rest) =>
      rw [read, readFrom_of_failure answered, splitFrom_of_failure answered]
      simp only [List.append_nil, distribute_of_lt few]
      exact ⟨rfl, trivial⟩
    | (some (.ok register), rest) =>
      have smaller := size_of_next? answered
      rw [read, readFrom_of_record answered, readFrom_eq, splitFrom_of_record answered]
      have regrouped : waiting ++ ((#[].push register).toList ++ (read lanes rest).records) =
          (waiting ++ [register]) ++ (read lanes rest).records :=
        (List.append_assoc ..).symm
      have counted : written.length + waiting.length +
            ((#[].push register).toList ++ (read lanes rest).records).length =
          written.length + (waiting ++ [register]).length + (read lanes rest).records.length := by
        simp only [List.length_append, List.push_toArray, List.nil_append, Nat.add_assoc]
      simp only [regrouped, counted]
      by_cases incomplete : (waiting ++ [register]).length < 8
      · rw [if_pos incomplete]
        exact ih rest.size smaller written incomplete writers rest rfl
      · have full : (waiting ++ [register]).length = 8 := by
          rw [List.length_append, List.length_singleton] at incomplete ⊢
          omega
        rw [if_neg incomplete, distribute_append full]
        rcases writeGroup (waiting ++ [register]) writers with ⟨cause | ⟨⟩, laters⟩
        · exact ⟨rfl, rfl⟩
        · have none : ([] : List (Register lanes)).length < 8 := Nat.zero_lt_succ 7
          have later := ih rest.size smaller (written ++ (waiting ++ [register])) none laters rest
            rfl
          simpa only [List.length_append, List.length_nil, Nat.add_zero, List.nil_append] using
            later

/-- Splitting record by record is the same splitting. -/
theorem split_eq (lanes : Lanes) (source : ByteSource) (writers : List W) :
    split lanes source writers =
      ((splitRun lanes source writers).result, (splitRun lanes source writers).writers) := by
  by_cases crowded : lanes.count < writers.length
  · rw [split, splitRun, if_pos crowded, if_pos crowded]
    rfl
  · have few : ([] : List (Register lanes)).length < 8 := Nat.zero_lt_succ 7
    obtain ⟨result, laters⟩ := splitFrom_eq [] few writers source
    rw [List.nil_append] at result laters
    simp only [split, splitRun, if_neg crowded, result, laters]
    rcases distribute (read lanes source).failure writers (read lanes source).records with
      ⟨cause | ⟨⟩, others⟩
    · rfl
    · simp [Except.map]

end Stepwise

section Reading

variable {W : Type}

/-- What a splitting has read once it has ended: as many of the records in its source as it says.
All of them were read if the reading has come to an end. -/
structure Reads (before : List (Register lanes)) (source : ByteSource) (run : SplitRun lanes W) :
    Prop where
  taken : ∃ count, run.records = before ++ (recordsOf lanes source.contents).take count ∧
    ((∃ cause, run.ending = .refused cause) →
      run.rest.contents = source.contents.drop (count * lanes.bytes))
  unreadable : ∀ cause, run.ending = .unreadable cause →
    run.records = before ++ recordsOf lanes source.contents ∧
      source.failure.or (leftover lanes source.contents) = some cause
  complete : run.ending = .complete →
    run.records = before ++ recordsOf lanes source.contents ∧
      source.failure.or (leftover lanes source.contents) = none

variable {before : List (Register lanes)} {source later : ByteSource} {run : SplitRun lanes W}

/-- A record in front of what is read is read as well. -/
theorem Reads.of_later (enough : lanes.bytes ≤ source.contents.length)
    (rest : later.contents = source.contents.drop lanes.bytes)
    (ending : later.failure = source.failure)
    (reads : Reads (before ++ [Register.decode lanes (source.contents.take lanes.bytes)]) later
      run) : Reads before source run := by
  obtain ⟨⟨count, records, left⟩, unreadable, complete⟩ := reads
  have front := recordsOf_of_le enough
  rw [rest] at records left unreadable complete
  rw [ending, ← leftover_of_le enough] at unreadable complete
  simp only [List.append_assoc, List.singleton_append, ← front] at unreadable complete
  refine ⟨⟨count + 1, ?_, ?_⟩, unreadable, complete⟩
  · rw [records, front, List.take_succ_cons, List.append_assoc, List.singleton_append]
  · intro refused
    rw [left refused, List.drop_drop, Nat.succ_mul, Nat.add_comm]

/-- Splitting reads the records in front of its source. The induction is on these. -/
theorem splitFrom_reads [ByteSink W] (written waiting : List (Register lanes)) (writers : List W)
    (source : ByteSource) :
    Reads (written ++ waiting) source (splitFrom written waiting writers source) := by
  induction sizes : source.size using Nat.strongRecOn
    generalizing source written waiting writers with
  | ind size ih =>
    subst sizes
    by_cases enough : lanes.bytes ≤ source.contents.length
    · obtain ⟨rest, answered, after, ending⟩ := next?_of_le enough
      have smaller := size_of_next? answered
      refine .of_later enough after ending ?_
      rw [splitFrom_of_record answered, List.append_assoc]
      generalize waiting ++ [Register.decode lanes _] = group
      split
      · exact ih rest.size smaller written group writers rest rfl
      · rcases writeGroup group writers with ⟨cause | ⟨⟩, laters⟩
        · refine ⟨⟨0, ?_, ?_⟩, nofun, nofun⟩
          · rw [List.take_zero, List.append_nil]
          · intro _
            rw [Nat.zero_mul, List.drop_zero]
        · have others := ih rest.size smaller (written ++ group) [] laters rest rfl
          rwa [List.append_nil] at others
    · have short := Nat.lt_of_not_le enough
      obtain ⟨rest, answered, empty, -⟩ := next?_of_lt short
      have none := recordsOf_of_lt short
      cases ended : source.failure.or (leftover lanes source.contents) with
      | some cause =>
        rw [ended] at answered
        rw [splitFrom_of_failure answered]
        refine ⟨⟨0, ?_, nofun⟩, ?_, nofun⟩
        · rw [List.take_zero, List.append_nil]
        · rintro _ ⟨⟩
          rw [none, List.append_nil]
          exact ⟨rfl, ended⟩
      | none =>
        have held : source.contents = [] := by
          have nothing := (Option.or_eq_none_iff.mp ended).2
          rw [leftover_of_lt short] at nothing
          split at nothing
          · assumption
          · cases nothing
        rw [ended] at answered
        rw [splitFrom_of_end answered]
        rcases writeLast waiting writers with ⟨cause | ⟨⟩, laters⟩
        · refine ⟨⟨0, ?_, ?_⟩, nofun, nofun⟩
          · rw [List.take_zero, List.append_nil]
          · intro _
            rw [empty, held, List.drop_nil]
        · refine ⟨⟨0, ?_, nofun⟩, nofun, ?_⟩
          · rw [List.take_zero, List.append_nil]
          · intro _
            rw [none, List.append_nil]
            exact ⟨rfl, ended⟩

end Reading

end Trace

end Bitslice
