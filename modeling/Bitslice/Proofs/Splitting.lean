import Bitslice.Proofs.StoredTraces
import Bitslice.Trace.Split

/-!
# Splitting a trace gives every instance its own

Splitting turns the records of a trace, which hold one bit of each instance,
into one bit sequence for each instance. `Trace.split_stored` says what the
writers hold afterwards, and `Circuit.split_gives_single_traces` that this is
the trace of the instance evaluated alone.
-/

namespace Bitslice

variable {lanes : Lanes}

namespace Trace

section EachWriter

variable {W : Type} {operation : Nat → W → Except IoFailure Unit × W}

/-- An operation that succeeds on every writer is performed on all, and each is left as the
operation leaves it. -/
theorem eachWriter_of_forall {Left : Nat → W → W → Prop} {writers : List W}
    (each : ∀ number, ∀ writer ∈ writers,
      ∃ later, operation number writer = (.ok (), later) ∧ Left number writer later)
    (index : Nat) :
    ∃ laters, eachWriter operation index writers = (.ok (), laters) ∧
      laters.length = writers.length ∧
      ∀ number (before : number < writers.length) (after : number < laters.length),
        Left (index + number) writers[number] laters[number] := by
  induction writers generalizing index with
  | nil =>
    refine ⟨[], rfl, rfl, ?_⟩
    intro number before
    cases before
  | cons writer writers ih =>
    obtain ⟨first, performed, left⟩ := each index writer (.head _)
    obtain ⟨laters, others, counted, leftLaters⟩ :=
      ih (fun number other member => each number other (.tail _ member)) (index + 1)
    refine ⟨first :: laters, ?_, congrArg (· + 1) counted, ?_⟩
    · rw [eachWriter, performed]
      simp only [others]
    · intro number before after
      cases number with
      | zero => exact left
      | succ number =>
        have same : index + (number + 1) = index + 1 + number := by omega
        rw [same]
        exact leftLaters number (Nat.lt_of_succ_lt_succ before) (Nat.lt_of_succ_lt_succ after)

/-- What the operation keeps of every writer is kept, whether or not a failure stops it. -/
theorem eachWriter_keeps {Good : W → Prop} {writers : List W}
    (each : ∀ number writer, Good writer → Good (operation number writer).2)
    (good : ∀ writer ∈ writers, Good writer) (index : Nat) :
    ∀ later ∈ (eachWriter operation index writers).2, Good later := by
  induction writers generalizing index with
  | nil => exact good
  | cons writer writers ih =>
    have first := each index writer (good writer (.head _))
    have others := ih (fun other member => good other (.tail _ member)) (index + 1)
    rw [eachWriter]
    rcases performed : operation index writer with ⟨cause | ⟨⟩, next⟩
    · rw [performed] at first
      exact List.forall_mem_cons.mpr ⟨first, fun other member => good other (.tail _ member)⟩
    · rw [performed] at first
      exact List.forall_mem_cons.mpr ⟨first, others⟩

end EachWriter

section Groups

variable {group others : List (Register lanes)} {number : Nat}

/-- The bytes of complete groups stand in front of those of the records behind them. -/
theorem toBytes_lane_append (whole : 8 ∣ group.length) :
    Bits.toBytes ((group ++ others).map (·.lane number)) =
      Bits.toBytes (group.map (·.lane number)) ++ Bits.toBytes (others.map (·.lane number)) := by
  rw [List.map_append, Bits.toBytes_append]
  rwa [List.length_map]

/-- Up to eight records give an instance one byte. -/
theorem toBytes_lane_of_length_le (nonempty : group ≠ []) (few : group.length ≤ 8) :
    Bits.toBytes (group.map (·.lane number)) = [instanceByte group number] := by
  apply Bits.toBytes_of_length_le
  · simpa using nonempty
  · rwa [List.length_map]

variable {W : Type} [ByteSink W] {writers : List W}

/-- A group of eight is written before the rest is distributed. -/
theorem distribute_append (full : group.length = 8) (failure : Option IoFailure) :
    distribute failure writers (group ++ others) =
      match writeGroup group writers with
      | (.error cause, writers) => (.error cause, writers)
      | (.ok (), writers) => distribute failure writers others := by
  rw [distribute.eq_def, List.take_left' full, List.drop_left' full]
  exact if_neg (full ▸ Nat.lt_irrefl 8)

theorem distribute_of_lt (few : group.length < 8) (failure : Option IoFailure) :
    distribute failure writers group =
      match failure with
      | some cause => (.error cause, writers)
      | none => writeLast group writers := by
  have all : group.take 8 = group := List.take_of_length_le (Nat.le_of_lt few)
  rw [distribute.eq_def, all]
  exact if_pos few

end Groups

section Keeping

variable {W : Type} [ByteSink W] {Good : W → Prop}
  (writes : ∀ (writer : W) (bytes : Bytes), Good writer → Good (ByteSink.write writer bytes).2)
  (flushes : ∀ writer : W, Good writer → Good (ByteSink.flush writer).2)

include writes

theorem writeGroup_keeps (group : List (Register lanes)) {writers : List W}
    (good : ∀ writer ∈ writers, Good writer) :
    ∀ later ∈ (writeGroup group writers).2, Good later :=
  eachWriter_keeps (fun _ writer => writes writer _) good 0

include flushes

theorem writeLast_keeps (group : List (Register lanes)) {writers : List W}
    (good : ∀ writer ∈ writers, Good writer) :
    ∀ later ∈ (writeLast group writers).2, Good later := by
  refine eachWriter_keeps ?_ good 0
  intro number writer before
  split
  · exact flushes writer before
  · have between := writes writer [instanceByte group number] before
    rcases written : ByteSink.write writer [instanceByte group number] with ⟨cause | ⟨⟩, middle⟩
    · rwa [written] at between
    · rw [written] at between
      exact flushes middle between

/-- What writing and flushing keep of every writer is kept while records are distributed. -/
theorem distribute_keeps (failure : Option IoFailure) (records : List (Register lanes))
    {writers : List W} (good : ∀ writer ∈ writers, Good writer) :
    ∀ later ∈ (distribute failure writers records).2, Good later := by
  induction sizes : records.length using Nat.strongRecOn generalizing records writers with
  | ind size ih =>
    subst sizes
    by_cases few : records.length < 8
    · rw [distribute_of_lt few]
      cases failure with
      | none => exact writeLast_keeps writes flushes records good
      | some cause => exact good
    · have full : (records.take 8).length = 8 := List.length_take_of_le (Nat.le_of_not_lt few)
      have fewer : (records.drop 8).length < records.length := by
        rw [List.length_drop]
        omega
      have between := writeGroup_keeps writes (records.take 8) good
      rw [← List.take_append_drop 8 records, distribute_append full]
      rcases written : writeGroup (records.take 8) writers with ⟨cause | ⟨⟩, middles⟩
      · rwa [written] at between
      · rw [written] at between
        exact ih _ fewer (records.drop 8) between rfl

theorem split_keeps (lanes : Lanes) (source : ByteSource) {writers : List W}
    (good : ∀ writer ∈ writers, Good writer) :
    ∀ later ∈ (split lanes source writers).2, Good later := by
  have distributed := distribute_keeps writes flushes (read lanes source).failure
    (read lanes source).records good
  rw [split]
  split
  · exact good
  · rcases answered : distribute (read lanes source).failure writers (read lanes source).records
      with ⟨cause | ⟨⟩, laters⟩
    · rw [answered] at distributed
      simpa only [answered] using distributed
    · rw [answered] at distributed
      simpa only [answered] using distributed

end Keeping

section Distribute

variable {W : Type} [StoringSink W] {writers laters : List W}

/-- Every writer has received the bytes of its number, and goes on taking whatever comes. -/
structure Received (bytes : Nat → Bytes) (writers laters : List W) : Prop where
  counted : laters.length = writers.length
  reliable : ∀ later ∈ laters, ByteSink.Reliable later
  contents : ∀ number (before : number < writers.length) (after : number < laters.length),
    StoringSink.contents laters[number] = StoringSink.contents writers[number] ++ bytes number

theorem Received.trans {middles : List W} {first second : Nat → Bytes}
    (earlier : Received first writers middles) (later : Received second middles laters) :
    Received (fun number => first number ++ second number) writers laters where
  counted := later.counted.trans earlier.counted
  reliable := later.reliable
  contents := by
    intro number before after
    have between : number < middles.length := by
      rw [earlier.counted]
      exact before
    rw [later.contents number between after, earlier.contents number before between,
      List.append_assoc]

/-- An operation that gives each writer its bytes and never fails. -/
theorem received_of_eachWriter {operation : Nat → W → Except IoFailure Unit × W}
    {bytes : Nat → Bytes}
    (each : ∀ number, ∀ writer ∈ writers, ∃ later, operation number writer = (.ok (), later) ∧
      ByteSink.Reliable later ∧
        StoringSink.contents later = StoringSink.contents writer ++ bytes number) :
    ∃ laters, eachWriter operation 0 writers = (.ok (), laters) ∧
      Received bytes writers laters := by
  obtain ⟨laters, performed, counted, left⟩ := eachWriter_of_forall each 0
  refine ⟨laters, performed, counted, ?_, ?_⟩
  · intro later member
    obtain ⟨number, inside, rfl⟩ := List.getElem_of_mem member
    exact (left number (by rwa [← counted]) inside).1
  · intro number before after
    have received := (left number before after).2
    rwa [Nat.zero_add] at received

variable {group : List (Register lanes)}

theorem writeGroup_received (reliable : ∀ writer ∈ writers, ByteSink.Reliable writer) :
    ∃ laters, writeGroup group writers = (.ok (), laters) ∧
      Received (fun number => [instanceByte group number]) writers laters := by
  apply received_of_eachWriter
  intro number writer member
  obtain ⟨later, written, reliableLater⟩ := (reliable writer member).write _
  exact ⟨later, written, reliableLater, StoringSink.contents_write written⟩

/-- Fewer than eight records are written as the bytes that their bits fill. -/
theorem writeLast_received (reliable : ∀ writer ∈ writers, ByteSink.Reliable writer)
    (few : group.length < 8) :
    ∃ laters, writeLast group writers = (.ok (), laters) ∧
      Received (fun number => Bits.toBytes (group.map (·.lane number))) writers laters := by
  apply received_of_eachWriter
  intro number writer member
  by_cases none : group = []
  · obtain ⟨later, flushed, reliableLater⟩ := (reliable writer member).flush
    refine ⟨later, ?_, reliableLater, ?_⟩
    · rw [none]
      exact flushed
    · rw [StoringSink.contents_flush flushed, none, List.map_nil, Bits.toBytes_nil, List.append_nil]
  · obtain ⟨middle, written, reliableMiddle⟩ :=
      (reliable writer member).write [instanceByte group number]
    obtain ⟨later, flushed, reliableLater⟩ := reliableMiddle.flush
    refine ⟨later, ?_, reliableLater, ?_⟩
    · have occupied : ¬group.isEmpty = true := by simpa using none
      rw [if_neg occupied, written]
      exact flushed
    · rw [StoringSink.contents_flush flushed, StoringSink.contents_write written,
        toBytes_lane_of_length_le none (Nat.le_of_lt few)]

/-- All records: the induction is on their number, eight at a time. -/
theorem distribute_received (reliable : ∀ writer ∈ writers, ByteSink.Reliable writer)
    (records : List (Register lanes)) :
    ∃ laters, distribute none writers records = (.ok (), laters) ∧
      Received (fun number => Bits.toBytes (records.map (·.lane number))) writers laters := by
  induction sizes : records.length using Nat.strongRecOn generalizing records writers with
  | ind size ih =>
    subst sizes
    by_cases few : records.length < 8
    · rw [distribute_of_lt few]
      exact writeLast_received reliable few
    · have full : (records.take 8).length = 8 := List.length_take_of_le (Nat.le_of_not_lt few)
      have fewer : (records.drop 8).length < records.length := by
        rw [List.length_drop]
        omega
      obtain ⟨middles, written, receivedFirst⟩ := writeGroup_received reliable
      obtain ⟨laters, distributed, receivedRest⟩ :=
        ih _ fewer receivedFirst.reliable (records.drop 8) rfl
      have bytes : (fun number => Bits.toBytes (records.map (·.lane number))) = fun number =>
          [instanceByte (records.take 8) number] ++
            Bits.toBytes ((records.drop 8).map (·.lane number)) := by
        ext1 number
        rw [← toBytes_lane_of_length_le (List.ne_nil_of_length_eq_add_one full) (Nat.le_of_eq full),
          ← toBytes_lane_append ⟨1, full⟩, List.take_append_drop]
      refine ⟨laters, ?_, ?_⟩
      · rw [← List.take_append_drop 8 records, distribute_append full, written]
        exact distributed
      · rw [bytes]
        exact receivedFirst.trans receivedRest

/-- A stored trace is split completely, and every writer receives the bits of its lane. -/
theorem split_stored {source : ByteSource} {trace : List (Register lanes)}
    (whole : source.contents = stored trace) (sound : source.failure = none)
    (fits : writers.length ≤ lanes.count)
    (reliable : ∀ writer ∈ writers, ByteSink.Reliable writer) :
    ∃ laters, split lanes source writers = (.ok trace.length, laters) ∧
      Received (fun number => Bits.toBytes (trace.map (·.lane number))) writers laters := by
  obtain ⟨records, failure⟩ := read_stored whole sound
  obtain ⟨laters, distributed, received⟩ := distribute_received reliable trace
  refine ⟨laters, ?_, received⟩
  rw [split, if_neg (Nat.not_lt_of_le fits)]
  simp only [records, failure, distributed]

end Distribute

end Trace

namespace Circuit

variable {circuit : Circuit lanes} {gates : List Gate} {inputs outputs : Bytes} {batch : Nat}
  {generator : Generator}

/-- Splitting what a run has stored gives each writer the bits of one lane of its computation. -/
theorem Sound.split_run (sound : circuit.Sound gates) {W V : Type} [StoringSink W] [StoringSink V]
    {sink : W} (empty : StoringSink.contents sink = [])
    (succeeded : (circuit.run inputs outputs (StoredTrace.start lanes sink) batch
      generator).result = .ok ())
    {source : ByteSource}
    (whole : source.contents = StoringSink.contents (circuit.run inputs outputs
      (StoredTrace.start lanes sink) batch generator).recorder.sink)
    (ended : source.failure = none) {writers : List V} (fits : writers.length ≤ lanes.count)
    (reliable : ∀ writer ∈ writers, ByteSink.Reliable writer) :
    ∃ laters, Trace.split lanes source writers = (.ok gates.length, laters) ∧
      Trace.Received (fun number => Bits.toBytes
        (circuit.evaluateLane gates inputs batch generator number).written) writers laters := by
  obtain ⟨accepts, -⟩ := sound.keep_of_run succeeded
  obtain ⟨laters, split, received⟩ :=
    Trace.split_stored (whole.trans (sound.stored_of_run empty succeeded)) ended fits reliable
  have counted : (circuit.computation gates inputs batch generator).trace.length = gates.length :=
    Gate.length_compute gates
  rw [counted] at split
  refine ⟨laters, split, received.counted, received.reliable, ?_⟩
  intro number before after
  have lane : (circuit.computation gates inputs batch generator).trace.map (·.lane number) =
      (circuit.evaluateLane gates inputs batch generator number).written :=
    congrArg Evaluation.written
      (sound.lane_computation accepts (Nat.lt_of_lt_of_le before fits))
  rw [received.contents number before after, lane]

section Alone

variable {single : Circuit .one} (sound : circuit.Sound gates)
  (drawless : ∀ gate ∈ gates, gate.operator ≠ .random) {row : Nat} (occupied : row < batch)

include sound drawless occupied

/-- Without a random gate, a lane is evaluated like its row alone on registers of one lane. -/
theorem Sound.evaluateLane_alone (sameHeader : single.header = circuit.header)
    (sameInputs : single.inputs = circuit.inputs) (alone : Generator) :
    single.evaluateLane gates ((inputs.drop (row * circuit.header.inputBytes)).take
        circuit.header.inputBytes) 1 alone 0 =
      circuit.evaluateLane gates inputs batch generator row := by
  have wires : ∀ wire < circuit.inputs.length,
      (decide (0 < 1) && Bits.wire circuit.header.inputBytes
        ((inputs.drop (row * circuit.header.inputBytes)).take circuit.header.inputBytes) 0 wire) =
      (decide (row < batch) && Bits.wire circuit.header.inputBytes inputs row wire) := by
    intro wire listed
    have below := Nat.lt_of_lt_of_le listed sound.inputs_covered
    rw [Bits.wire, Nat.zero_mul, List.drop_zero, Bits.bitAt_take below, decide_eq_true occupied]
    rfl
  rw [evaluateLane, evaluateLane, sameHeader, sameInputs, Cells.ofInputs_congr wires]
  exact Gate.evaluateBits_of_not_random drawless _ _ _ _ _

/-- Such a row alone is run without failure, and its trace is that of its lane. -/
theorem Sound.trace_alone (accepts : circuit.Accepts inputs outputs batch)
    (soundAlone : single.Sound gates) (sameHeader : single.header = circuit.header)
    (sameInputs : single.inputs = circuit.inputs) {rowOutputs : Bytes}
    (room : circuit.header.outputBytes ≤ rowOutputs.length) (alone : Generator) :
    let outcome := single.run ((inputs.drop (row * circuit.header.inputBytes)).take
      circuit.header.inputBytes) rowOutputs (TraceList.empty .one) 1 alone
    outcome.result = .ok () ∧ outcome.recorder.records.toList.map (·.lane 0) =
      (circuit.evaluateLane gates inputs batch generator row).written := by
  intro outcome
  have whole : (row + 1) * circuit.header.inputBytes ≤ inputs.length :=
    Nat.le_trans (Nat.mul_le_mul_right _ occupied) accepts.inputsHeld
  have acceptsAlone : single.Accepts ((inputs.drop (row * circuit.header.inputBytes)).take
      circuit.header.inputBytes) rowOutputs 1 := by
    refine ⟨Nat.le_refl 1, Nat.le_refl 1, ?_, ?_⟩
    · rw [sameHeader, List.length_take, List.length_drop]
      rw [Nat.succ_mul] at whole
      omega
    · rwa [sameHeader, Nat.one_mul]
  have succeeded : outcome.result = .ok () :=
    soundAlone.run_of_reliable acceptsAlone (Recorder.reliable_traceList _)
  refine ⟨succeeded, ?_⟩
  rw [soundAlone.records_of_run succeeded,
    ← sound.evaluateLane_alone drawless occupied sameHeader sameInputs alone,
    ← soundAlone.lane_computation acceptsAlone Nat.zero_lt_one]
  rfl

end Alone

/-- Splitting a batched trace gives each instance its own. Whatever earlier runs left in the
memory, if a run with a stored trace succeeds, then splitting what was stored over at most as many
empty reliable writers as there are lanes counts the gates, and every writer holds the bits that
the gates write when its row is evaluated alone. Without random gates these are the bits of the
trace that a run of this row alone on registers of one lane records. -/
theorem split_gives_single_traces {reservation : Reservation} {length : Option UInt64}
    {descriptor : ByteSource} (loaded : read lanes reservation length descriptor = .ok circuit)
    {earlier : Ram lanes} (sized : earlier.size = circuit.ram.size)
    {W V : Type} [StoringSink W] [StoringSink V] {sink : W}
    (empty : StoringSink.contents sink = []) {outcome : Outcome lanes (StoredTrace lanes W)}
    (ran : run { circuit with ram := earlier } inputs outputs (StoredTrace.start lanes sink) batch
      generator = outcome)
    (succeeded : outcome.result = .ok ()) {source : ByteSource}
    (whole : source.contents = StoringSink.contents outcome.recorder.sink)
    (ended : source.failure = none) {writers : List V} (fits : writers.length ≤ lanes.count)
    (fresh : ∀ writer ∈ writers, StoringSink.contents writer = [] ∧ ByteSink.Reliable writer) :
    ∃ (gates : List Gate) (laters : List V), circuit.gates = gates.map .ok ∧
      Trace.split lanes source writers = (.ok circuit.header.gateCount.toNat, laters) ∧
      laters.length = writers.length ∧
      ∀ row (inside : row < laters.length),
        let held := StoringSink.contents laters[row]
        held.length = (circuit.header.gateCount.toNat + 7) / 8 ∧
        Bits.Packs held (circuit.evaluateLane gates inputs batch generator row).written ∧
        ((∀ gate ∈ gates, gate.operator ≠ .random) → row < batch →
          ∀ (otherReservation : Reservation) (otherLength : Option UInt64) (again : ByteSource)
            (single : Circuit .one), again.contents = descriptor.contents →
          read .one otherReservation otherLength again = .ok single →
          ∀ (before : Ram .one) (rowOutputs : Bytes) (rowGenerator : Generator),
            before.size = single.ram.size → circuit.header.outputBytes ≤ rowOutputs.length →
            let alone := run { single with ram := before }
              ((inputs.drop (row * circuit.header.inputBytes)).take circuit.header.inputBytes)
              rowOutputs (TraceList.empty .one) 1 rowGenerator
            alone.result = .ok () ∧
              Bits.Packs held (alone.recorder.records.toList.map (·.lane 0))) := by
  subst ran
  obtain ⟨gates, loadedSound⟩ := (accepted_of_read loaded).sound
  have sound : Sound { circuit with ram := earlier } gates :=
    loadedSound.of_sameProgram ⟨rfl, rfl, rfl, rfl, sized⟩
  obtain ⟨accepts, -⟩ := sound.keep_of_run succeeded
  obtain ⟨laters, split, received⟩ := sound.split_run empty succeeded whole ended fits
    fun writer member => (fresh writer member).2
  rw [sound.gatesCounted] at split
  refine ⟨gates, laters, loadedSound.decoded, split, received.counted, ?_⟩
  intro row inside held
  have before : row < writers.length := by rwa [← received.counted]
  have packed : held =
      Bits.toBytes (circuit.evaluateLane gates inputs batch generator row).written := by
    have contents := received.contents row before inside
    rw [(fresh _ (List.getElem_mem before)).1, List.nil_append] at contents
    exact contents
  have packs : Bits.Packs held (circuit.evaluateLane gates inputs batch generator row).written := by
    rw [packed]
    exact Bits.packs_toBytes _
  refine ⟨?_, packs, ?_⟩
  · rw [packs.sized, evaluateLane, Gate.length_written, loadedSound.gatesCounted]
  · intro drawless occupied otherReservation otherLength again single same loadedToo memory
      rowOutputs rowGenerator memorySized room alone
    obtain ⟨sameHeader, sameInputs, -, sameStream⟩ := program_of_contents loaded loadedToo same
    obtain ⟨others, soundToo⟩ := (accepted_of_read loadedToo).sound
    have decoded : single.gates = gates.map .ok := by
      rw [Circuit.gates, sameHeader, sameStream]
      exact loadedSound.decoded
    obtain rfl : others = gates :=
      (List.map_inj_right fun _ _ => Except.ok.inj).mp (soundToo.decoded.symm.trans decoded)
    have soundAlone : Sound { single with ram := memory } others :=
      soundToo.of_sameProgram ⟨rfl, rfl, rfl, rfl, memorySized⟩
    obtain ⟨succeededAlone, written⟩ :=
      sound.trace_alone drawless occupied accepts soundAlone sameHeader sameInputs room rowGenerator
    refine ⟨succeededAlone, ?_⟩
    rw [written]
    exact packs

/-- The trace of two instances of the inverter, split over two writers. -/
theorem inverter_is_split :
    read .eight Reservation.standard none (ByteSource.ofBytes inverter) =
        .ok (inverterLoaded .eight) ∧
      let ran := (inverterLoaded .eight).run [0, 128] [0, 0]
        (StoredTrace.start .eight BoundedBuffer.unbounded) 2 (Generator.ofSeed 5)
      let alone := (inverterLoaded .one).run [128] [0] (TraceList.empty .one) 1
        (Generator.ofSeed 6)
      ran.result = .ok () ∧ StoringSink.contents ran.recorder.sink = [253] ∧
        ∃ laters : List BoundedBuffer, Trace.split .eight (ByteSource.ofBytes [253])
            [BoundedBuffer.unbounded, BoundedBuffer.unbounded] = (.ok 1, laters) ∧
          ∃ inside : 1 < laters.length, alone.result = .ok () ∧
            Bits.Packs (StoringSink.contents laters[1])
              (alone.recorder.records.toList.map (·.lane 0)) := by
  refine ⟨read_inverter .eight, ?_⟩
  intro ran alone
  have accepts : (inverterLoaded .eight).Accepts [0, 128] [0, 0] 2 :=
    ⟨by decide, by decide, by decide, by decide⟩
  have sound := sound_inverterLoaded .eight
  have succeeded : ran.result = .ok () :=
    sound.run_of_reliable accepts (StoredTrace.reliable ByteSink.reliable_unbounded)
  have packed : (inverterLoaded .eight).packed [0, 128] 2 = #[2, 0] := by decide
  have holds : StoringSink.contents ran.recorder.sink = [253] := by
    rw [sound.stored_of_run rfl succeeded, computation_inverter, packed]
    decide
  have fresh : ∀ writer ∈ [BoundedBuffer.unbounded, BoundedBuffer.unbounded],
      StoringSink.contents writer = [] ∧ ByteSink.Reliable writer := by
    intro writer member
    obtain rfl : writer = BoundedBuffer.unbounded := by simpa using member
    exact ⟨rfl, ByteSink.reliable_unbounded⟩
  have whole : (ByteSource.ofBytes [253]).contents = StoringSink.contents ran.recorder.sink :=
    holds.symm
  obtain ⟨gates, laters, decoded, split, counted, each⟩ :=
    split_gives_single_traces (read_inverter .eight) rfl rfl rfl succeeded whole rfl
      (by decide) fresh
  have inside : 1 < laters.length := by
    rw [counted]
    decide
  have drawless : ∀ gate ∈ gates, gate.operator ≠ .random := by
    obtain rfl : gates = [⟨.not, 0, 0, 1⟩] :=
      (List.map_inj_right fun _ _ => Except.ok.inj).mp
        (decoded.symm.trans sound.decoded)
    decide
  obtain ⟨-, -, likeAlone⟩ := each 1 inside
  obtain ⟨succeededAlone, packs⟩ := likeAlone drawless (by decide) Reservation.standard none
    (ByteSource.ofBytes inverter) _ rfl (read_inverter .one) _ [0] (Generator.ofSeed 6) rfl
    (by decide)
  exact ⟨succeeded, holds, laters, split, inside, succeededAlone, packs⟩

end Circuit

end Bitslice
