import Bitslice.Proofs.Stepping

/-!
# Splitting leaves no wrong bits behind

The records of a complete group are written to all writers before the next
record is read, so wherever a stream breaks or a writer refuses, the writers
differ in the last group at most (`Trace.CutAt`, `Trace.Settled`). Who wants to
know which of them were flushed counts the flushes (`Counted`), which changes
nothing else.
-/

namespace Bitslice

variable {lanes : Lanes}

/-- A sink that a refused byte and a failed flush leave as it was. -/
class SteadySink (W : Type) extends StoringSink W where
  contents_refused : ∀ {sink later : W} {byte : UInt8} {cause : IoFailure},
    ByteSink.write sink [byte] = (.error cause, later) → contents later = contents sink
  contents_unflushed : ∀ {sink later : W} {cause : IoFailure},
    ByteSink.flush sink = (.error cause, later) → contents later = contents sink

namespace BoundedBuffer

variable {buffer later : BoundedBuffer} {cause : IoFailure}

/-- A byte is refused only where there is no room at all. -/
theorem stored_of_refused {byte : UInt8} (refused : buffer.write [byte] = (.error cause, later)) :
    later.stored.toList = buffer.stored.toList := by
  unfold write at refused
  split at refused
  · cases refused
  · next limit limited =>
    obtain ⟨answered, rfl⟩ := Prod.mk.inj refused
    split at answered
    · cases answered
    · next room =>
      have none : limit - buffer.stored.size = 0 := by
        rw [List.length_singleton] at room
        omega
      simp only [none, List.take_zero, Array.toList_appendList, List.append_nil]

theorem stored_of_flush {result : Except IoFailure Unit}
    (flushed : buffer.flush = (result, later)) :
    later.stored.toList = buffer.stored.toList := by
  obtain rfl := (Prod.mk.inj flushed).2
  rfl

end BoundedBuffer

instance : SteadySink BoundedBuffer where
  contents_refused := BoundedBuffer.stored_of_refused
  contents_unflushed := BoundedBuffer.stored_of_flush

/-- A sink that counts how often it is asked to flush. -/
structure Counted (W : Type) where
  /-- The sink itself. -/
  sink : W
  /-- The flushes asked for. -/
  flushes : Nat

namespace Counted

variable {W : Type}

/-- No flush has been asked for yet. -/
def start (sink : W) : Counted W :=
  ⟨sink, 0⟩

instance [ByteSink W] : ByteSink (Counted W) where
  write counted bytes :=
    match ByteSink.write counted.sink bytes with
    | (result, sink) => (result, { counted with sink := sink })
  flush counted :=
    match ByteSink.flush counted.sink with
    | (result, sink) => (result, ⟨sink, counted.flushes + 1⟩)

end Counted

namespace Trace

section Counting

variable {W : Type}

/-- An operation that can be watched through its writers is watched on all of them. -/
theorem eachWriter_map {V : Type} {shown : V → W} {watched : Nat → V → Except IoFailure Unit × V}
    {plain : Nat → W → Except IoFailure Unit × W}
    (agree : ∀ number writer, plain number (shown writer) =
      ((watched number writer).1, shown (watched number writer).2))
    (index : Nat) (writers : List V) :
    eachWriter plain index (writers.map shown) =
      ((eachWriter watched index writers).1, (eachWriter watched index writers).2.map shown) := by
  induction writers generalizing index with
  | nil => rfl
  | cons writer writers ih =>
    rw [List.map_cons, eachWriter, eachWriter, agree]
    rcases watched index writer with ⟨cause | ⟨⟩, later⟩
    · rfl
    · simp only [ih (index + 1), List.map_cons]

variable [ByteSink W]

theorem writeGroup_counted (group : List (Register lanes)) (writers : List (Counted W)) :
    writeGroup group (writers.map Counted.sink) =
      ((writeGroup group writers).1, (writeGroup group writers).2.map Counted.sink) := by
  refine eachWriter_map ?_ 0 writers
  intro number writer
  rfl

/-- What becomes of one writer at a good end of the trace. -/
def finishWriter (group : List (Register lanes)) (number : Nat) (writer : W) :
    Except IoFailure Unit × W :=
  if group.isEmpty then ByteSink.flush writer
  else
    match ByteSink.write writer [instanceByte group number] with
    | (.error cause, writer) => (.error cause, writer)
    | (.ok (), writer) => ByteSink.flush writer

theorem writeLast_eq (group : List (Register lanes)) (writers : List W) :
    writeLast group writers = eachWriter (finishWriter group) 0 writers :=
  rfl

theorem writeLast_counted (group : List (Register lanes)) (writers : List (Counted W)) :
    writeLast group (writers.map Counted.sink) =
      ((writeLast group writers).1, (writeLast group writers).2.map Counted.sink) := by
  rw [writeLast_eq, writeLast_eq]
  refine eachWriter_map ?_ 0 writers
  intro number writer
  unfold finishWriter
  by_cases none : group.isEmpty = true
  · simp only [if_pos none]
    rfl
  · simp only [if_neg none, ByteSink.write]
    rcases ByteSink.write writer.sink [instanceByte group number] with ⟨cause | ⟨⟩, later⟩
    · rfl
    · rfl

/-- Counting the flushes changes nothing about a distribution. -/
theorem distribute_counted (failure : Option IoFailure) (writers : List (Counted W))
    (records : List (Register lanes)) :
    distribute failure (writers.map Counted.sink) records =
      ((distribute failure writers records).1,
        (distribute failure writers records).2.map Counted.sink) := by
  induction sizes : records.length using Nat.strongRecOn generalizing records writers with
  | ind size ih =>
    subst sizes
    by_cases few : records.length < 8
    · rw [distribute_of_lt few, distribute_of_lt few]
      cases failure with
      | some cause => rfl
      | none => exact writeLast_counted records writers
    · have full : (records.take 8).length = 8 := List.length_take_of_le (Nat.le_of_not_lt few)
      have fewer : (records.drop 8).length < records.length := by
        rw [List.length_drop]
        omega
      rw [← List.take_append_drop 8 records, distribute_append full, distribute_append full,
        writeGroup_counted]
      rcases writeGroup (records.take 8) writers with ⟨cause | ⟨⟩, laters⟩
      · rfl
      · exact ih _ fewer laters _ rfl

/-- Counting the flushes changes nothing about a splitting. -/
theorem split_counted (lanes : Lanes) (source : ByteSource) (writers : List (Counted W)) :
    split lanes source (writers.map Counted.sink) =
      ((split lanes source writers).1, (split lanes source writers).2.map Counted.sink) := by
  rw [split, split, List.length_map]
  by_cases crowded : lanes.count < writers.length
  · rw [if_pos crowded, if_pos crowded]
  · rw [if_neg crowded, if_neg crowded]
    simp only [distribute_counted]
    rcases distribute (read lanes source).failure writers (read lanes source).records with
      ⟨cause | ⟨⟩, laters⟩
    · rfl
    · rfl

end Counting

section Cutting

variable {W : Type}

/-- An operation takes each writer from one state to another, or leaves it where it was and fails.
It may also fail in the other state. Then the writers in front of some place are in that state, and
the others where they were. -/
theorem eachWriter_cut (operation : Nat → W → Except IoFailure Unit × W)
    (Before After : Nat → W → Prop)
    (step : ∀ number writer later result, Before number writer →
      operation number writer = (result, later) →
      After number later ∨ Before number later ∧ ∃ cause, result = .error cause)
    (index : Nat) {writers : List W}
    (before : ∀ number writer, writers[number]? = some writer → Before (index + number) writer) :
    let done := eachWriter operation index writers
    done.2.length = writers.length ∧
      (done.1 = .ok () →
        ∀ number later, done.2[number]? = some later → After (index + number) later) ∧
      ∃ ahead, ∀ number later, done.2[number]? = some later →
        if number < ahead then After (index + number) later else Before (index + number) later := by
  induction writers generalizing index with
  | nil =>
    refine ⟨rfl, ?_, 0, ?_⟩
    · intro _ number later found
      cases found
    · intro number later found
      cases found
  | cons writer writers ih =>
    have first : Before index writer := before 0 writer rfl
    have others : ∀ number other, writers[number]? = some other →
        Before (index + 1 + number) other := by
      intro number other found
      rw [Nat.add_assoc, Nat.add_comm 1]
      exact before (number + 1) other found
    rw [eachWriter]
    rcases performed : operation index writer with ⟨cause | ⟨⟩, later⟩
    · refine ⟨rfl, ?_, ?_⟩
      · intro succeeded
        cases succeeded
      · rcases step index writer later _ first performed with changed | ⟨unchanged, -⟩
        · refine ⟨1, ?_⟩
          rintro (_ | number) other found
          · cases found
            exact changed
          · exact before (number + 1) other found
        · refine ⟨0, ?_⟩
          rintro (_ | number) other found
          · cases found
            exact unchanged
          · exact before (number + 1) other found
    · have changed : After index later := by
        rcases step index writer later _ first performed with changed | ⟨-, cause, failed⟩
        · exact changed
        · cases failed
      obtain ⟨counted, all, ahead, cut⟩ := ih (index + 1) others
      refine ⟨congrArg (· + 1) counted, ?_, ahead + 1, ?_⟩
      · intro succeeded
        rintro (_ | number) other found
        · cases found
          exact changed
        · have here := all succeeded number other found
          rwa [Nat.add_assoc, Nat.add_comm 1] at here
      · rintro (_ | number) other found
        · cases found
          exact changed
        · have here := cut number other found
          rw [Nat.add_assoc, Nat.add_comm 1] at here
          simpa only [Nat.add_lt_add_iff_right] using here

end Cutting

section Holding

variable {W : Type} [SteadySink W] {records written waiting group : List (Register lanes)}
  {flushes number : Nat} {writer later : Counted W} {writers : List (Counted W)}

/-- The writer of this number holds the bits of its lane in these records, and was asked to flush
so many times. -/
structure Holds (records : List (Register lanes)) (flushes number : Nat) (writer : Counted W) :
    Prop where
  contents : StoringSink.contents writer.sink = Bits.toBytes (records.map (·.lane number))
  flushed : writer.flushes = flushes

/-- All writers are in the same state. -/
def AllHold (records : List (Register lanes)) (flushes : Nat) (writers : List (Counted W)) : Prop :=
  ∀ number writer, writers[number]? = some writer → Holds records flushes number writer

/-- A byte for a group stands behind the bytes of the groups before, unless it is refused. -/
theorem Holds.write (whole : 8 ∣ written.length) (nonempty : group ≠ []) (few : group.length ≤ 8)
    (holds : Holds written flushes number writer) {result : Except IoFailure Unit}
    (offered : ByteSink.write writer [instanceByte group number] = (result, later)) :
    result = .ok () ∧ Holds (written ++ group) flushes number later ∨
      Holds written flushes number later ∧ ∃ cause, result = .error cause := by
  rcases answered : ByteSink.write writer.sink [instanceByte group number] with ⟨answer, sink⟩
  simp only [ByteSink.write, answered] at offered
  obtain ⟨rfl, rfl⟩ := Prod.mk.inj offered
  rcases answer with cause | ⟨⟩
  · refine .inr ⟨⟨?_, holds.flushed⟩, cause, rfl⟩
    rw [SteadySink.contents_refused answered, holds.contents]
  · refine .inl ⟨rfl, ?_, holds.flushed⟩
    rw [StoringSink.contents_write answered, holds.contents, toBytes_lane_append whole,
      toBytes_lane_of_length_le nonempty few]

/-- Whether a flush succeeds or not, it was asked for and changes nothing else. -/
theorem Holds.flush (holds : Holds written flushes number writer) {result : Except IoFailure Unit}
    (flushed : ByteSink.flush writer = (result, later)) :
    Holds written (flushes + 1) number later := by
  rcases answered : ByteSink.flush writer.sink with ⟨answer, sink⟩
  simp only [ByteSink.flush, answered] at flushed
  obtain ⟨rfl, rfl⟩ := Prod.mk.inj flushed
  refine ⟨?_, congrArg (· + 1) holds.flushed⟩
  rw [← holds.contents]
  rcases answer with cause | ⟨⟩
  · exact SteadySink.contents_unflushed answered
  · exact StoringSink.contents_flush answered

/-- One writer at the end: its byte may be refused, and otherwise it is flushed in any case. -/
theorem Holds.finish (whole : 8 ∣ written.length) (few : waiting.length < 8)
    (holds : Holds written 0 number writer) {result : Except IoFailure Unit}
    (finished : finishWriter waiting number writer = (result, later)) :
    Holds (written ++ waiting) 1 number later ∨
      Holds written 0 number later ∧ ∃ cause, result = .error cause := by
  unfold finishWriter at finished
  by_cases none : waiting = []
  · subst none
    rw [List.append_nil]
    exact .inl (holds.flush finished)
  · rw [if_neg (by simpa using none)] at finished
    rcases offered : ByteSink.write writer [instanceByte waiting number] with ⟨answer, middle⟩
    rw [offered] at finished
    rcases holds.write whole none (Nat.le_of_lt few) offered with
      ⟨rfl, further⟩ | ⟨unchanged, cause, rfl⟩
    · exact .inl (further.flush finished)
    · obtain ⟨rfl, rfl⟩ := Prod.mk.inj finished
      exact .inr ⟨unchanged, cause, rfl⟩

/-- The writers in front of the cut hold more records than those behind it. -/
def CutAt (ahead : Nat) (written records : List (Register lanes)) (writers : List (Counted W)) :
    Prop :=
  ∀ number writer, writers[number]? = some writer → StoringSink.contents writer.sink =
    Bits.toBytes ((if number < ahead then records else written).map (·.lane number))

/-- An operation that brings one writer from some records to more, or fails, does so to all writers
or to those in front of the one it fails on. -/
theorem eachWriter_holds (operation : Nat → Counted W → Except IoFailure Unit × Counted W)
    (step : ∀ number writer later result, Holds written 0 number writer →
      operation number writer = (result, later) →
      Holds records flushes number later ∨
        Holds written 0 number later ∧ ∃ cause, result = .error cause)
    (all : AllHold written 0 writers) :
    let done := eachWriter operation 0 writers
    done.2.length = writers.length ∧ (done.1 = .ok () → AllHold records flushes done.2) ∧
      ∃ ahead, CutAt ahead written records done.2 := by
  obtain ⟨counted, succeeded, ahead, cut⟩ := eachWriter_cut operation (Holds written 0)
    (Holds records flushes) step 0
    (fun number writer found => (Nat.zero_add number).symm ▸ all number writer found)
  simp only [Nat.zero_add] at succeeded cut
  refine ⟨counted, succeeded, ahead, ?_⟩
  intro number writer found
  have here := cut number writer found
  split at here
  · next before => rw [if_pos before, here.contents]
  · next behind => rw [if_neg behind, here.contents]

/-- Writing a full group. -/
theorem writeGroup_cut (whole : 8 ∣ written.length) (full : group.length = 8)
    (all : AllHold written 0 writers) :
    let done := writeGroup group writers
    done.2.length = writers.length ∧ (done.1 = .ok () → AllHold (written ++ group) 0 done.2) ∧
      ∃ ahead, CutAt ahead written (written ++ group) done.2 := by
  refine eachWriter_holds _ ?_ all
  intro number writer later result holds offered
  have nonempty : group ≠ [] := List.ne_nil_of_length_eq_add_one full
  exact (holds.write whole nonempty (Nat.le_of_eq full) offered).imp_left And.right

/-- Writing the last records and flushing. -/
theorem writeLast_cut (whole : 8 ∣ written.length) (few : waiting.length < 8)
    (all : AllHold written 0 writers) :
    let done := writeLast waiting writers
    done.2.length = writers.length ∧ (done.1 = .ok () → AllHold (written ++ waiting) 1 done.2) ∧
      ∃ ahead, CutAt ahead written (written ++ waiting) done.2 := by
  rw [writeLast_eq]
  refine eachWriter_holds _ ?_ all
  intro number writer later result holds finished
  exact holds.finish whole few finished

/-- How a splitting leaves its writers: cut somewhere in the last group, or all alike. -/
structure Settled (count : Nat) (run : SplitRun lanes (Counted W)) : Prop where
  counted : run.writers.length = count
  cut : ∃ written ahead, 8 ∣ written.length ∧ written <+: run.records ∧
    run.records.length ≤ written.length + 8 ∧ CutAt ahead written run.records run.writers
  unreadable : ∀ cause, run.ending = .unreadable cause →
    ∃ written, 8 ∣ written.length ∧ written <+: run.records ∧
      run.records.length < written.length + 8 ∧ AllHold written 0 run.writers
  complete : run.ending = .complete → AllHold run.records 1 run.writers

theorem AllHold.cutAt (all : AllHold written flushes writers) (records : List (Register lanes)) :
    CutAt 0 written records writers := by
  intro number writer found
  rw [if_neg (Nat.not_lt_zero number), (all number writer found).contents]

/-- Splitting settles its writers. The induction is on what is left to be read; between two records
all writers hold the complete groups and were never asked to flush. -/
theorem splitFrom_settled (whole : 8 ∣ written.length) (few : waiting.length < 8)
    (all : AllHold written 0 writers) (source : ByteSource) :
    Settled writers.length (splitFrom written waiting writers source) := by
  induction sizes : source.size using Nat.strongRecOn
    generalizing source written waiting writers with
  | ind size ih =>
    subst sizes
    match answered : next? lanes source with
    | (none, rest) =>
      obtain ⟨counted, succeeded, ahead, cut⟩ := writeLast_cut whole few all
      rw [splitFrom_of_end answered]
      have near : (written ++ waiting).length ≤ written.length + 8 := by
        rw [List.length_append]
        omega
      generalize writeLast waiting writers = done at counted succeeded cut ⊢
      obtain ⟨cause | ⟨⟩, laters⟩ := done
      · exact ⟨counted, ⟨written, ahead, whole, List.prefix_append _ _, near, cut⟩, nofun, nofun⟩
      · exact ⟨counted, ⟨written, ahead, whole, List.prefix_append _ _, near, cut⟩, nofun,
          fun _ => succeeded rfl⟩
    | (some (.error cause), rest) =>
      rw [splitFrom_of_failure answered]
      have near : (written ++ waiting).length < written.length + 8 := by
        rw [List.length_append]
        omega
      refine ⟨rfl, ⟨written, 0, whole, List.prefix_append _ _, Nat.le_of_lt near, all.cutAt _⟩, ?_,
        nofun⟩
      intro _ _
      exact ⟨written, whole, List.prefix_append _ _, near, all⟩
    | (some (.ok register), rest) =>
      have smaller := size_of_next? answered
      have longer : (waiting ++ [register]).length = waiting.length + 1 := List.length_append
      rw [splitFrom_of_record answered]
      split
      · next incomplete => exact ih rest.size smaller whole incomplete all rest rfl
      · next complete =>
        have full : (waiting ++ [register]).length = 8 := by omega
        obtain ⟨counted, succeeded, ahead, cut⟩ := writeGroup_cut whole full all
        generalize writeGroup (waiting ++ [register]) writers = done at counted succeeded cut ⊢
        obtain ⟨cause | ⟨⟩, laters⟩ := done
        · have near : (written ++ (waiting ++ [register])).length ≤ written.length + 8 := by
            rw [List.length_append]
            omega
          exact ⟨counted, ⟨written, ahead, whole, List.prefix_append _ _, near, cut⟩, nofun, nofun⟩
        · have wholeToo : 8 ∣ (written ++ (waiting ++ [register])).length := by
            rw [List.length_append, full]
            exact Nat.dvd_add whole (Nat.dvd_refl 8)
          have none : ([] : List (Register lanes)).length < 8 := Nat.zero_lt_succ 7
          have settled := ih rest.size smaller wholeToo none (succeeded rfl) rest rfl
          rw [← counted]
          exact settled

/-- A splitting of this source over so many writers leaves nothing wrong in them. The packing of a
number holds the bits of that lane in the records that were read. -/
structure LeavesPrefixes (source : ByteSource) (count : Nat) (packing : Nat → Bytes)
    (run : SplitRun lanes (Counted W)) : Prop where
  packs : ∀ number, Bits.Packs (packing number) (run.records.map (·.lane number))
  read : ∃ taken, run.records = (recordsOf lanes source.contents).take taken ∧
    ((∃ cause, run.ending = .refused cause) →
      run.rest.contents = source.contents.drop (taken * lanes.bytes))
  counted : run.writers.length = count
  prefixes : ∀ number writer, run.writers[number]? = some writer →
    StoringSink.contents writer.sink <+: packing number
  lengths : ∀ (first second : Nat) (earlier later : Counted W), first ≤ second →
    run.writers[first]? = some earlier → run.writers[second]? = some later →
    (StoringSink.contents later.sink).length ≤ (StoringSink.contents earlier.sink).length ∧
      (StoringSink.contents earlier.sink).length ≤ (StoringSink.contents later.sink).length + 1
  unreadable : ∀ cause, run.ending = .unreadable cause →
    run.records = recordsOf lanes source.contents ∧
      source.failure.or (leftover lanes source.contents) = some cause ∧
      ∀ writer ∈ run.writers,
        (StoringSink.contents writer.sink).length = run.records.length / 8 ∧ writer.flushes = 0
  complete : ∀ total, run.result = .ok total →
    source.failure = none ∧ source.contents.length = total * lanes.bytes ∧
      run.records = recordsOf lanes source.contents ∧ run.records.length = total ∧
      ∀ number writer, run.writers[number]? = some writer →
        StoringSink.contents writer.sink = packing number ∧
          (packing number).length = (total + 7) / 8 ∧ writer.flushes = 1

theorem AllHold.of_mem (all : AllHold written flushes writers) (member : writer ∈ writers) :
    ∃ number, Holds written flushes number writer := by
  obtain ⟨number, found⟩ := List.getElem?_of_mem member
  exact ⟨number, all number writer found⟩

theorem Holds.length_contents (holds : Holds records flushes number writer) :
    (StoringSink.contents writer.sink).length = (records.length + 7) / 8 := by
  rw [holds.contents, Bits.length_toBytes, List.length_map]

/-- Only a splitting that is complete answers with a number, that of its records. -/
theorem SplitRun.result_eq_ok_iff {W : Type} {run : SplitRun lanes W} {total : Nat} :
    run.result = .ok total ↔ run.ending = .complete ∧ run.records.length = total := by
  unfold result
  split <;> simp_all

/-- The bytes of a source in which everything is read are those of its records. -/
theorem length_contents_of_leftover {source : ByteSource}
    (nothing : leftover lanes source.contents = none) :
    source.contents.length = (recordsOf lanes source.contents).length * lanes.bytes := by
  unfold leftover at nothing
  split at nothing
  · next whole =>
    rw [length_recordsOf]
    exact (Nat.div_mul_cancel (Nat.dvd_of_mod_eq_zero whole)).symm
  · cases nothing

/-- What reading and writing say about a splitting, put together. -/
theorem Settled.leavesPrefixes {source : ByteSource} {count : Nat}
    {run : SplitRun lanes (Counted W)} (settled : Settled count run)
    (reads : Reads [] source run) :
    LeavesPrefixes source count (fun number => Bits.toBytes (run.records.map (·.lane number)))
      run := by
  obtain ⟨written, ahead, whole, ⟨others, together⟩, near, cut⟩ := settled.cut
  have longer : written.length ≤ run.records.length := by
    rw [← together, List.length_append]
    exact Nat.le_add_right _ _
  have sized : ∀ number writer, run.writers[number]? = some writer →
      (StoringSink.contents writer.sink).length =
        ((if number < ahead then run.records.length else written.length) + 7) / 8 := by
    intro number writer found
    rw [cut number writer found, Bits.length_toBytes, List.length_map]
    split <;> rfl
  constructor
  case packs => exact fun number => Bits.packs_toBytes _
  case read => exact reads.taken
  case counted => exact settled.counted
  case prefixes =>
    intro number writer found
    rw [cut number writer found]
    split
    · exact List.prefix_rfl
    · rw [← together, toBytes_lane_append whole]
      exact List.prefix_append _ _
  case lengths =>
    intro first second earlier later ordered earlierFound laterFound
    rw [sized first earlier earlierFound, sized second later laterFound]
    split <;> split <;> omega
  case unreadable =>
    intro cause broken
    obtain ⟨all, ended⟩ := reads.unreadable cause broken
    refine ⟨all, ended, ?_⟩
    intro writer member
    obtain ⟨groups, wholeGroups, ⟨waiting, sum⟩, few, held⟩ := settled.unreadable cause broken
    obtain ⟨number, holds⟩ := held.of_mem member
    refine ⟨?_, holds.flushed⟩
    rw [holds.length_contents]
    rw [← sum, List.length_append] at few ⊢
    omega
  case complete =>
    intro total succeeded
    obtain ⟨finished, rfl⟩ := SplitRun.result_eq_ok_iff.mp succeeded
    obtain ⟨all, ended⟩ := reads.complete finished
    obtain ⟨sound, nothing⟩ := Option.or_eq_none_iff.mp ended
    rw [List.nil_append] at all
    refine ⟨sound, ?_, all, rfl, ?_⟩
    · rw [all]
      exact length_contents_of_leftover nothing
    · intro number writer found
      have holds := settled.complete finished number writer found
      refine ⟨holds.contents, ?_, holds.flushed⟩
      rw [Bits.length_toBytes, List.length_map]

/-- Splitting never leaves wrong bits behind, also when it fails. More writers than lanes are
refused with nothing read and nothing written. Otherwise a trace of any form is split over writers
that were empty, whatever they refuse: each ends with a beginning of the bits of its lane in the
records that were read, no writer is behind an earlier one by more than a byte or in front of it;
when the stream breaks or stops inside a record, each holds the bytes of the complete groups and
none was flushed; and a number is answered only for a stream of exactly so many records, each writer
then holding all its bytes and being flushed. -/
theorem splitting_leaves_no_wrong_bits (lanes : Lanes) (source : ByteSource) {plain : List W}
    (empty : ∀ writer ∈ plain, StoringSink.contents writer = []) :
    let run := splitRun lanes source (plain.map Counted.start)
    split lanes source plain = (run.result, run.writers.map Counted.sink) ∧
      (lanes.count < plain.length →
        (∃ cause, run.result = .error cause ∧ cause.kind = .invalidInput) ∧ run.records = [] ∧
          run.rest = source ∧ run.writers = plain.map Counted.start) ∧
      (plain.length ≤ lanes.count →
        ∃ packing, LeavesPrefixes source plain.length packing run) := by
  intro run
  have bare : (plain.map Counted.start).map Counted.sink = plain := by
    rw [List.map_map]
    exact List.map_id plain
  refine ⟨?_, ?_, ?_⟩
  · have watched := split_counted lanes source (plain.map Counted.start)
    rwa [bare, split_eq lanes source (plain.map Counted.start)] at watched
  · intro crowded
    have refusal : run = ⟨.crowded, plain.map Counted.start, [], source⟩ := by
      refine if_pos ?_
      rwa [List.length_map]
    rw [refusal]
    exact ⟨⟨_, rfl, rfl⟩, rfl, rfl, rfl⟩
  · intro room
    have started : run = splitFrom [] [] (plain.map Counted.start) source := by
      refine if_neg ?_
      rw [List.length_map]
      exact Nat.not_lt_of_le room
    have none : AllHold ([] : List (Register lanes)) 0 (plain.map Counted.start) := by
      intro number writer found
      obtain ⟨sink, member, rfl⟩ := List.mem_map.mp (List.mem_of_getElem? found)
      refine ⟨?_, rfl⟩
      rw [List.map_nil, Bits.toBytes_nil]
      exact empty sink member
    have few : ([] : List (Register lanes)).length < 8 := Nat.zero_lt_succ 7
    have whole : 8 ∣ ([] : List (Register lanes)).length := Nat.dvd_zero 8
    have settled := splitFrom_settled whole few none source
    rw [List.length_map, ← started] at settled
    have reads := splitFrom_reads ([] : List (Register lanes)) [] (plain.map Counted.start) source
    rw [List.append_nil, ← started] at reads
    exact ⟨_, settled.leavesPrefixes reads⟩

end Holding

/-- Ten records over three buffers, of which the second has room for one byte only; and three
writers for a single lane. -/
theorem split_into_a_full_buffer :
    let source := ByteSource.ofBytes [5, 4, 1, 0, 5, 4, 1, 0, 7, 7]
    let buffers : List BoundedBuffer := [.unbounded, ⟨#[], some 1, false⟩, .unbounded]
    let run := splitRun .eight source (buffers.map Counted.start)
    (∀ buffer ∈ buffers, StoringSink.contents buffer = []) ∧
      split .eight source buffers = (.error (.device .other "disk full"),
        [⟨#[0xAA, 0xC0], none, false⟩, ⟨#[0], some 1, false⟩, ⟨#[0xCC], none, false⟩]) ∧
      split .eight source buffers = (run.result, run.writers.map Counted.sink) ∧
      (∃ packing, LeavesPrefixes source 3 packing run) ∧
      (splitRun .one source (buffers.map Counted.start)).rest = source := by
  intro source buffers run
  have empty : ∀ buffer ∈ buffers, StoringSink.contents buffer = [] := by decide
  obtain ⟨same, -, prefixes⟩ := splitting_leaves_no_wrong_bits .eight source empty
  obtain ⟨-, crowded, -⟩ := splitting_leaves_no_wrong_bits .one source empty
  obtain ⟨-, -, unread, -⟩ := crowded (by decide)
  refine ⟨empty, ?_, same, prefixes (by decide), unread⟩
  obtain ⟨records, failure⟩ := read_eq .eight source
  have ten : (read .eight source).records = [5, 4, 1, 0, 5, 4, 1, 0] ++ [7, 7] :=
    records.trans (by decide)
  have ended : (read .eight source).failure = none := failure.trans (by decide)
  have group : ([5, 4, 1, 0, 5, 4, 1, 0] : List (Register .eight)).length = 8 := rfl
  have few : ([7, 7] : List (Register .eight)).length < 8 := by decide
  have room : ¬Lanes.eight.count < buffers.length := by decide
  simp only [split, if_neg room, ten, ended, distribute_append group, distribute_of_lt few]
  rfl

end Trace

end Bitslice
