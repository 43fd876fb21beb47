import Bitslice.Execution.Series
import Bitslice.Proofs.Recording

/-!
# A series evaluates every instance alone

The buffers of a series keep the rows of earlier batches, the last batch may
leave lanes without an instance, and the generator goes on from batch to batch.
None of this shows in the results: `Circuit.evaluateInstance` sees one instance
and the draws of its batch. `Circuit.Sound.run_batch` describes one batch, and
the whole series follows by induction on its instances.
-/

namespace Bitslice

variable {lanes : Lanes}

/-- The number of batches that so many instances take. -/
def Lanes.batches (lanes : Lanes) (instances : Nat) : Nat :=
  (instances + (lanes.count - 1)) / lanes.count

theorem Lanes.batches_zero (lanes : Lanes) : lanes.batches 0 = 0 := by
  have positive := lanes.count_pos
  exact Nat.div_eq_of_lt (by omega)

theorem Lanes.batches_of_pos (lanes : Lanes) {instances : Nat} (positive : 0 < instances) :
    lanes.batches instances = lanes.batches (instances - lanes.count) + 1 := by
  have wide := lanes.count_pos
  have enough : lanes.count ≤ instances + (lanes.count - 1) := by omega
  rw [batches, batches, Nat.div_eq_sub_div wide enough]
  by_cases full : lanes.count ≤ instances
  · have same : instances + (lanes.count - 1) - lanes.count =
        instances - lanes.count + (lanes.count - 1) := by omega
    rw [same]
  · have left : instances + (lanes.count - 1) - lanes.count < lanes.count := by omega
    have right : instances - lanes.count + (lanes.count - 1) < lanes.count := by omega
    rw [Nat.div_eq_of_lt left, Nat.div_eq_of_lt right]

theorem Lanes.lt_batches {batch lane instances : Nat}
    (inside : batch * lanes.count + lane < instances) : batch < lanes.batches instances := by
  have positive := lanes.count_pos
  refine (Nat.le_div_iff_mul_le positive).mpr ?_
  rw [Nat.succ_mul]
  omega

/-- Induction over the instances of a series, a batch at a time. -/
theorem Lanes.batch_induction (lanes : Lanes) {motive : List Bytes → Prop} (nil : motive [])
    (batch : ∀ instances, instances ≠ [] → motive (instances.drop lanes.count) → motive instances)
    (instances : List Bytes) : motive instances := by
  induction sizes : instances.length using Nat.strongRecOn generalizing instances with
  | ind size ih =>
    subst sizes
    by_cases empty : instances = []
    · rw [empty]
      exact nil
    · have present := List.length_pos_iff.mpr empty
      have positive := lanes.count_pos
      have fewer : (instances.drop lanes.count).length < instances.length := by
        rw [List.length_drop]
        omega
      exact batch instances empty (ih _ fewer _ rfl)

/-- What a supplier remembers once it was asked for so many batches, from the given number on. -/
def RecorderSupplier.after {A R : Type} (supply : RecorderSupplier A R) (supplier : A)
    (number : Nat) : (batches : Nat) → A
  | 0 => supplier
  | batches + 1 => RecorderSupplier.after supply (supply supplier number).2 (number + 1) batches

namespace Circuit

section Instances

variable {circuit later : Circuit lanes} {gates : List Gate} {instances : List Bytes}
  {generator : Generator}

/-- The evaluation of an instance of a series, on its own bytes; behind the last instance all
inputs are zero. Random bits come from the lane of the instance in the draws of its batch. -/
def evaluateInstance (circuit : Circuit lanes) (gates : List Gate) (instances : List Bytes)
    (generator : Generator) (index : Nat) : Evaluation :=
  Gate.evaluateBits
    (fun number => (generator.drawn lanes
      (index / lanes.count * Gate.draws gates + number)).lane (index % lanes.count)) 0
    (Cells.ofInputs circuit.inputs
      (Bits.bitAt ((instances.getD index []).take circuit.header.inputBytes))) gates

/-- The output bytes that an evaluation leaves. -/
def answer (circuit : Circuit lanes) (evaluation : Evaluation) : Bytes :=
  Bits.toBytes (circuit.outputs.map evaluation.cells)

/-- The output bytes of all instances in order. -/
def answers (circuit : Circuit lanes) (gates : List Gate) (instances : List Bytes)
    (generator : Generator) : List Bytes :=
  (List.range instances.length).map fun index =>
    circuit.answer (circuit.evaluateInstance gates instances generator index)

theorem SameProgram.evaluateInstance_eq (same : SameProgram circuit later) :
    later.evaluateInstance = circuit.evaluateInstance := by
  ext1 gates
  unfold evaluateInstance
  rw [same.header, same.inputs]

theorem SameProgram.answers_eq (same : SameProgram circuit later) :
    later.answers = circuit.answers := by
  ext1 gates
  unfold answers answer
  rw [same.outputs, same.evaluateInstance_eq]

/-- Behind the first batch, the series goes on with the draws that this batch has left. -/
theorem evaluateInstance_drop (index : Nat) :
    circuit.evaluateInstance gates (instances.drop lanes.count)
        (generator.after lanes (Gate.draws gates)) index =
      circuit.evaluateInstance gates instances generator (lanes.count + index) := by
  have batch : (lanes.count + index) / lanes.count = index / lanes.count + 1 :=
    Nat.add_div_left index lanes.count_pos
  have draw : ∀ number, Gate.draws gates + (index / lanes.count * Gate.draws gates + number) =
      (index / lanes.count + 1) * Gate.draws gates + number := by
    intro number
    rw [Nat.succ_mul]
    omega
  have given : (instances.drop lanes.count).getD index [] =
      instances.getD (lanes.count + index) [] := by
    rw [List.getD_eq_getElem?_getD, List.getD_eq_getElem?_getD, List.getElem?_drop]
  unfold evaluateInstance
  rw [batch, Nat.add_mod_left, given]
  simp only [Generator.drawn_after, draw]

/-- What is seen of the instances of the first batch, and of the rest. -/
theorem evaluations_eq_append {View : Type} (view : Nat → Evaluation → View)
    (circuit : Circuit lanes) (gates : List Gate) (instances : List Bytes)
    (generator : Generator) :
    ((List.range instances.length).map fun index =>
        view index (circuit.evaluateInstance gates instances generator index)) =
      ((List.range (instances.take lanes.count).length).map fun lane =>
        view lane (circuit.evaluateInstance gates instances generator lane)) ++
      (List.range (instances.drop lanes.count).length).map fun index =>
        view (lanes.count + index) (circuit.evaluateInstance gates (instances.drop lanes.count)
          (generator.after lanes (Gate.draws gates)) index) := by
  have total : instances.length =
      (instances.take lanes.count).length + (instances.drop lanes.count).length := by
    rw [← List.length_append, List.take_append_drop]
  rw [total, List.range_add, List.map_append, List.map_map]
  refine congrArg _ (List.map_congr_left ?_)
  intro index listed
  have behind : (instances.take lanes.count).length = lanes.count := by
    have inside := List.mem_range.mp listed
    rw [List.length_drop] at inside
    rw [List.length_take]
    omega
  rw [Function.comp_apply, behind, evaluateInstance_drop]

/-- The answers of the first batch, and those of the rest. -/
theorem answers_eq_append (circuit : Circuit lanes) (gates : List Gate) (instances : List Bytes)
    (generator : Generator) :
    circuit.answers gates instances generator =
      (List.range (instances.take lanes.count).length).map (fun lane =>
        circuit.answer (circuit.evaluateInstance gates instances generator lane)) ++
      circuit.answers gates (instances.drop lanes.count)
        (generator.after lanes (Gate.draws gates)) :=
  evaluations_eq_append (fun _ => circuit.answer) circuit gates instances generator

end Instances

section Batch

variable {circuit : Circuit lanes} {gates : List Gate} {instances : List Bytes}
  {generator : Generator} {buffer outputs : Bytes}

theorem length_refill {rows : List Bytes} (fits : rows.flatten.length ≤ buffer.length) :
    (refill buffer rows).length = buffer.length := by
  rw [refill, List.length_append, List.length_drop]
  omega

/-- The rows of the first batch. -/
def firstRows (circuit : Circuit lanes) (instances : List Bytes) : List Bytes :=
  (instances.take lanes.count).map (·.take circuit.header.inputBytes)

variable (long : ∀ input ∈ instances, circuit.header.inputBytes ≤ input.length)

include long

theorem length_of_mem_firstRows :
    ∀ row ∈ circuit.firstRows instances, row.length = circuit.header.inputBytes := by
  intro row member
  obtain ⟨input, listed, rfl⟩ := List.mem_map.mp member
  exact List.length_take_of_le (long input (List.mem_of_mem_take listed))

theorem length_flatten_firstRows :
    (circuit.firstRows instances).flatten.length =
      (instances.take lanes.count).length * circuit.header.inputBytes := by
  rw [Bits.length_flatten_rows (length_of_mem_firstRows long), firstRows, List.length_map]

theorem length_refill_firstRows (sized : buffer.length = lanes.count * circuit.header.inputBytes) :
    (refill buffer (circuit.firstRows instances)).length = buffer.length := by
  apply length_refill
  have few : (instances.take lanes.count).length ≤ lanes.count := by
    rw [List.length_take]
    exact Nat.min_le_left _ _
  rw [length_flatten_firstRows long, sized]
  exact Nat.mul_le_mul_right _ few

/-- The buffers of a series have room for every batch. -/
theorem accepts_firstRows (nonempty : instances ≠ [])
    (inputsSized : buffer.length = lanes.count * circuit.header.inputBytes)
    (outputsSized : outputs.length = lanes.count * circuit.header.outputBytes) :
    circuit.Accepts (refill buffer (circuit.firstRows instances)) outputs
      (instances.take lanes.count).length := by
  have positive := lanes.count_pos
  have present := List.length_pos_iff.mpr nonempty
  have few : (instances.take lanes.count).length ≤ lanes.count := by
    rw [List.length_take]
    exact Nat.min_le_left _ _
  refine ⟨?_, few, ?_, ?_⟩
  · rw [List.length_take]
    omega
  · rw [length_refill_firstRows long inputsSized, inputsSized]
    exact Nat.mul_le_mul_right _ few
  · rw [outputsSized]
    exact Nat.mul_le_mul_right _ few

/-- In the first batch, a lane is evaluated on the bytes of its instance, whatever the buffer held
before. -/
theorem Sound.evaluateLane_firstRows (sound : circuit.Sound gates) {lane : Nat}
    (inside : lane < lanes.count) :
    circuit.evaluateLane gates (refill buffer (circuit.firstRows instances))
        (instances.take lanes.count).length generator lane =
      circuit.evaluateInstance gates instances generator lane := by
  have wires : ∀ wire < circuit.inputs.length,
      (decide (lane < (instances.take lanes.count).length) && Bits.wire circuit.header.inputBytes
        (refill buffer (circuit.firstRows instances)) lane wire) =
      Bits.bitAt ((instances.getD lane []).take circuit.header.inputBytes) wire := by
    intro wire listed
    have below := Nat.lt_of_lt_of_le listed sound.inputs_covered
    by_cases occupied : lane < (instances.take lanes.count).length
    · have among : lane < (circuit.firstRows instances).length := by
        rwa [firstRows, List.length_map]
      have present : lane < instances.length := by
        rw [List.length_take] at occupied
        omega
      rw [decide_eq_true occupied, Bool.true_and, refill,
        Bits.wire_flatten (length_of_mem_firstRows long) _ among below,
        List.getD_eq_getElem?_getD, List.getElem?_eq_getElem present, Option.getD_some]
      simp [firstRows]
    · have missing : instances.length ≤ lane := by
        rw [List.length_take] at occupied
        omega
      rw [decide_eq_false occupied, Bool.false_and, List.getD_eq_getElem?_getD,
        List.getElem?_eq_none missing, Option.getD_none, List.take_nil,
        Bits.bitAt_of_length_le (Nat.zero_le _)]
  rw [evaluateLane, evaluateInstance, Cells.ofInputs_congr wires, Nat.div_eq_of_lt inside,
    Nat.mod_eq_of_lt inside]
  simp only [Nat.zero_mul, Nat.zero_add]

/-- What running the first batch leaves behind. -/
structure RunsBatch {R : Type} [Recorder lanes R] (circuit : Circuit lanes) (gates : List Gate)
    (instances : List Bytes) (generator : Generator) (outputs : Bytes) (recorder : R)
    (trace : List (Register lanes)) (outcome : Outcome lanes R) : Prop where
  succeeded : outcome.result = .ok ()
  program : SameProgram circuit outcome.circuit
  drawn : outcome.generator = generator.after lanes (Gate.draws gates)
  buffer : outcome.outputs.length = outputs.length
  rows : Bits.rows circuit.header.outputBytes (instances.take lanes.count).length outcome.outputs =
    (List.range (instances.take lanes.count).length).map fun lane =>
      circuit.answer (circuit.evaluateInstance gates instances generator lane)
  kept : outcome.recorder = (Recorder.keep recorder trace).2
  lanewise : ∀ lane < lanes.count, trace.map (·.lane lane) =
    (circuit.evaluateInstance gates instances generator lane).written

section Rows

variable (sound : circuit.Sound gates)
  (accepts : circuit.Accepts (refill buffer (circuit.firstRows instances)) outputs
    (instances.take lanes.count).length)

include sound accepts

/-- In the computation of the first batch, a lane is evaluated on the bytes of its instance. -/
theorem Sound.lane_computation_firstRows {lane : Nat} (inside : lane < lanes.count) :
    (circuit.computation gates (refill buffer (circuit.firstRows instances))
        (instances.take lanes.count).length generator).lane lane =
      circuit.evaluateInstance gates instances generator lane := by
  rw [sound.lane_computation accepts inside, sound.evaluateLane_firstRows long inside]

/-- The trace of the first batch is the only one with these lanes. -/
theorem Sound.trace_firstRows {trace : List (Register lanes)}
    (lanewise : ∀ lane < lanes.count, trace.map (·.lane lane) =
      (circuit.evaluateInstance gates instances generator lane).written) :
    (circuit.computation gates (refill buffer (circuit.firstRows instances))
      (instances.take lanes.count).length generator).trace = trace := by
  apply Trace.ext_lane
  intro lane inside
  have evaluated : _ = circuit.evaluateInstance gates instances generator lane :=
    sound.lane_computation_firstRows long accepts inside
  exact (congrArg Evaluation.written evaluated).trans (lanewise lane inside).symm

variable {R : Type} [Recorder lanes R] {recorder : R}

/-- Running the first batch for a recorder that takes its trace, whatever earlier runs left in the
memory and stands behind the rows. -/
theorem Sound.run_rows_of_keep {trace : List (Register lanes)}
    (lanewise : ∀ lane < lanes.count, trace.map (·.lane lane) =
      (circuit.evaluateInstance gates instances generator lane).written)
    (keeps : (Recorder.keep recorder trace).1 = .ok ()) :
    circuit.RunsBatch gates instances generator outputs recorder trace
      (circuit.run (refill buffer (circuit.firstRows instances)) outputs recorder
        (instances.take lanes.count).length generator) := by
  have evaluated : ∀ lane < lanes.count, (circuit.computation gates (refill buffer
      (circuit.firstRows instances)) (instances.take lanes.count).length generator).lane lane =
        circuit.evaluateInstance gates instances generator lane :=
    fun lane inside => sound.lane_computation_firstRows long accepts inside
  have traced := sound.trace_firstRows long accepts lanewise
  generalize computed : circuit.computation gates (refill buffer (circuit.firstRows instances))
    (instances.take lanes.count).length generator = finished at evaluated traced
  have kept : Recorder.keep recorder finished.trace =
      (.ok (), (Recorder.keep recorder trace).2) := by
    rw [traced]
    exact Prod.ext keeps rfl
  rw [← computed] at kept
  have ran := sound.run_of_keep accepts kept
  rw [computed] at ran
  rw [ran]
  refine ⟨rfl, ⟨rfl, rfl, rfl, rfl, ?_⟩, ?_, Ram.length_unpack _, ?_, rfl, lanewise⟩
  · rw [← computed, computation, Gate.size_compute, size_packed]
  · rw [← computed]
    exact Gate.generator_compute gates
  · rw [Ram.rows_unpack _ accepts.outputsHeld, Ram.outputRows]
    apply List.map_congr_left
    intro lane listed
    have inside := Nat.lt_of_lt_of_le (List.mem_range.mp listed) accepts.fits
    have filled : ((finished.ram.laneBits circuit.outputs lane).length + 7) / 8 =
        circuit.header.outputBytes := by
      rw [Ram.laneBits, List.length_map, sound.outputsCounted, Header.outputBytes]
    rw [Bits.row_eq_toBytes filled, ← evaluated lane inside]
    rfl

/-- Running the first batch for a recorder that never fails. -/
theorem Sound.run_rows (generator : Generator) (reliable : Recorder.Reliable recorder) :
    ∃ trace, circuit.RunsBatch gates instances generator outputs recorder trace
      (circuit.run (refill buffer (circuit.firstRows instances)) outputs recorder
        (instances.take lanes.count).length generator) := by
  refine ⟨(circuit.computation gates (refill buffer (circuit.firstRows instances))
    (instances.take lanes.count).length generator).trace,
    sound.run_rows_of_keep long accepts ?_ (reliable _)⟩
  intro lane inside
  exact congrArg Evaluation.written (sound.lane_computation_firstRows long accepts inside)

/-- Running the first batch succeeds only if the recorder takes its trace. -/
theorem Sound.keep_of_run_rows {trace : List (Register lanes)}
    (lanewise : ∀ lane < lanes.count, trace.map (·.lane lane) =
      (circuit.evaluateInstance gates instances generator lane).written)
    (succeeded : (circuit.run (refill buffer (circuit.firstRows instances)) outputs recorder
      (instances.take lanes.count).length generator).result = .ok ()) :
    (Recorder.keep recorder trace).1 = .ok () := by
  obtain ⟨-, keeps⟩ := sound.keep_of_run succeeded
  rw [sound.trace_firstRows long accepts lanewise] at keeps
  rw [keeps]

end Rows

end Batch

section Run

variable {circuit : Circuit lanes} {gates : List Gate} {A R : Type} [Recorder lanes R]
  {supply : RecorderSupplier A R}

/-- The recorders that come back once each batch has told its own the trace. -/
def keptRecorders (supplied : Nat → Option R) (traces : Nat → List (Register lanes))
    (batches : Nat) : List R :=
  (List.range batches).filterMap fun batch =>
    (Recorder.keep (supplied batch) (traces batch)).2

theorem keptRecorders_succ (supplied : Nat → Option R) (traces : Nat → List (Register lanes))
    (batches : Nat) :
    keptRecorders supplied traces (batches + 1) =
      (Recorder.keep (supplied 0) (traces 0)).2.toList ++
        keptRecorders (fun batch => supplied (batch + 1)) (fun batch => traces (batch + 1))
          batches := by
  rw [keptRecorders, List.range_succ_eq_map, List.filterMap_cons, List.filterMap_map]
  cases (Recorder.keep (supplied 0) (traces 0)).2 <;> rfl

/-- For every batch, the supplier answers with a recorder that takes the trace of the batch, or
with none. -/
structure Takes (supply : RecorderSupplier A R) (supplier : A) (number batches : Nat)
    (traces : Nat → List (Register lanes)) (supplied : Nat → Option R) : Prop where
  answered : ∀ batch < batches,
    (supply (supply.after supplier number batch) (number + batch)).1 = .ok (supplied batch)
  kept : ∀ batch < batches, (Recorder.keep (supplied batch) (traces batch)).1 = .ok ()

theorem takes_succ_iff {supplier : A} {number batches : Nat}
    {traces : Nat → List (Register lanes)} {supplied : Nat → Option R} :
    Takes supply supplier number (batches + 1) traces supplied ↔
      (supply supplier number).1 = .ok (supplied 0) ∧
      (Recorder.keep (supplied 0) (traces 0)).1 = .ok () ∧
      Takes supply (supply supplier number).2 (number + 1) batches
        (fun batch => traces (batch + 1)) fun batch => supplied (batch + 1) := by
  have later : ∀ batch, number + 1 + batch = number + (batch + 1) := by
    intro batch
    omega
  constructor
  · rintro ⟨answered, kept⟩
    refine ⟨answered 0 (Nat.zero_lt_succ _), kept 0 (Nat.zero_lt_succ _), ?_, ?_⟩
    · intro batch before
      rw [later]
      exact answered (batch + 1) (Nat.succ_lt_succ before)
    · intro batch before
      exact kept (batch + 1) (Nat.succ_lt_succ before)
  · rintro ⟨answered, kept, rest⟩
    refine ⟨?_, ?_⟩
    · rintro (_ | batch) before
      · exact answered
      · rw [← later]
        exact rest.answered batch (Nat.lt_of_succ_lt_succ before)
    · rintro (_ | batch) before
      · exact kept
      · exact rest.kept batch (Nat.lt_of_succ_lt_succ before)

/-- A sequence with one more element in front. -/
def prepend {α : Type} (first : α) (rest : Nat → α) : Nat → α
  | 0 => first
  | index + 1 => rest index

/-- Traces have, batch by batch, in each lane what the gates write for its instance. -/
def TracesOf (circuit : Circuit lanes) (gates : List Gate) (instances : List Bytes)
    (generator : Generator) (traces : Nat → List (Register lanes)) : Prop :=
  ∀ batch < lanes.batches instances.length, ∀ lane < lanes.count,
    (traces batch).map (·.lane lane) =
      (circuit.evaluateInstance gates instances generator (batch * lanes.count + lane)).written

/-- What a series leads to that is asked to go on with these instances, after the batches before
the given number. -/
structure RunsSeries (circuit : Circuit lanes) (gates : List Gate) (instances : List Bytes)
    (generator : Generator) (supply : RecorderSupplier A R) (supplier : A) (number : Nat)
    (supplied : Nat → Option R) (done : List Bytes) (kept : List R)
    (traces : Nat → List (Register lanes)) (outcome : SeriesOutcome lanes A R) : Prop where
  result : outcome.result = .ok (done ++ circuit.answers gates instances generator,
    kept ++ keptRecorders supplied traces (lanes.batches instances.length))
  supplier : outcome.supplier = supply.after supplier number (lanes.batches instances.length)
  lanewise : circuit.TracesOf gates instances generator traces

/-- A circuit and buffers as a series has them before it goes on with these instances. -/
structure Prepared (circuit : Circuit lanes) (gates : List Gate) (instances : List Bytes)
    (buffer outputs : Bytes) : Prop where
  sound : circuit.Sound gates
  long : ∀ input ∈ instances, circuit.header.inputBytes ≤ input.length
  inputsSized : buffer.length = lanes.count * circuit.header.inputBytes
  outputsSized : outputs.length = lanes.count * circuit.header.outputBytes

section Step

variable {instances : List Bytes} {generator : Generator} {supplier next : A} {number : Nat}
  {buffer outputs : Bytes} {recorder : Option R} {outcome : Outcome lanes (Option R)}

theorem runSeriesFrom_nil (done : Array Bytes) (kept : Array R) :
    runSeriesFrom supply circuit generator supplier number buffer outputs done kept [] =
      ⟨.ok (done.toList, kept.toList), circuit, generator, supplier, []⟩ := by
  rw [runSeriesFrom]
  rfl

/-- A batch for which the supplier fails is not run. -/
theorem runSeriesFrom_of_unsupplied (nonempty : instances ≠ []) {failure : RunFailure}
    (answered : supply supplier number = (.error failure, next)) (done : Array Bytes)
    (kept : Array R) :
    runSeriesFrom supply circuit generator supplier number buffer outputs done kept instances =
      ⟨.error failure, circuit, generator, next, []⟩ := by
  have unfinished : ¬instances.isEmpty = true := by simpa using nonempty
  rw [runSeriesFrom, if_neg unfinished, answered]

/-- A batch that fails is the last. -/
theorem runSeriesFrom_of_failed (nonempty : instances ≠ []) {failure : RunFailure}
    (answered : supply supplier number = (.ok recorder, next))
    (ran : circuit.run (refill buffer (circuit.firstRows instances)) outputs recorder
      (instances.take lanes.count).length generator = outcome)
    (failed : outcome.result = .error failure) (done : Array Bytes) (kept : Array R) :
    runSeriesFrom supply circuit generator supplier number buffer outputs done kept instances =
      ⟨.error failure, outcome.circuit, outcome.generator, next, []⟩ := by
  have unfinished : ¬instances.isEmpty = true := by simpa using nonempty
  subst ran
  rw [runSeriesFrom, if_neg unfinished, answered]
  simp only
  rw [firstRows] at failed ⊢
  rw [failed]

/-- A batch that succeeds is followed by the rest of the series. -/
theorem runSeriesFrom_of_batch (nonempty : instances ≠ [])
    (answered : supply supplier number = (.ok recorder, next))
    (ran : circuit.run (refill buffer (circuit.firstRows instances)) outputs recorder
      (instances.take lanes.count).length generator = outcome)
    (succeeded : outcome.result = .ok ()) (done : Array Bytes) (kept : Array R) :
    runSeriesFrom supply circuit generator supplier number buffer outputs done kept instances =
      runSeriesFrom supply outcome.circuit outcome.generator next (number + 1)
        (refill buffer (circuit.firstRows instances)) outcome.outputs
        (done ++ Bits.rows outcome.circuit.header.outputBytes
          (instances.take lanes.count).length outcome.outputs)
        (kept ++ outcome.recorder.toList) (instances.drop lanes.count) := by
  have unfinished : ¬instances.isEmpty = true := by simpa using nonempty
  subst ran
  rw [runSeriesFrom, if_neg unfinished, answered]
  simp only
  rw [firstRows] at succeeded ⊢
  rw [succeeded]

theorem batches_eq_succ (nonempty : instances ≠ []) :
    lanes.batches instances.length = lanes.batches (instances.drop lanes.count).length + 1 := by
  rw [List.length_drop]
  exact lanes.batches_of_pos (List.length_pos_iff.mpr nonempty)

/-- The trace of the first batch and those of the rest are the traces of all batches. -/
theorem lanewise_cons (nonempty : instances ≠ []) {trace : List (Register lanes)}
    {traces : Nat → List (Register lanes)}
    (first : ∀ lane < lanes.count, trace.map (·.lane lane) =
      (circuit.evaluateInstance gates instances generator lane).written)
    (rest : circuit.TracesOf gates (instances.drop lanes.count)
      (generator.after lanes (Gate.draws gates)) traces) :
    circuit.TracesOf gates instances generator (prepend trace traces) := by
  intro batch before lane inside
  rw [batches_eq_succ nonempty] at before
  cases batch with
  | zero =>
    rw [Nat.zero_mul, Nat.zero_add]
    exact first lane inside
  | succ batch =>
    have place : (batch + 1) * lanes.count + lane =
        lanes.count + (batch * lanes.count + lane) := by
      rw [Nat.succ_mul]
      omega
    have same := rest batch (Nat.lt_of_succ_lt_succ before) lane inside
    rw [evaluateInstance_drop, ← place] at same
    exact same

/-- The traces of all batches are that of the first one and those of the rest. -/
theorem TracesOf.uncons {traces : Nat → List (Register lanes)}
    (traced : circuit.TracesOf gates instances generator traces) (nonempty : instances ≠ []) :
    (∀ lane < lanes.count, (traces 0).map (·.lane lane) =
        (circuit.evaluateInstance gates instances generator lane).written) ∧
      circuit.TracesOf gates (instances.drop lanes.count)
        (generator.after lanes (Gate.draws gates)) fun batch => traces (batch + 1) := by
  rw [TracesOf, batches_eq_succ nonempty] at traced
  constructor
  · intro lane inside
    have first := traced 0 (Nat.zero_lt_succ _) lane inside
    rwa [Nat.zero_mul, Nat.zero_add] at first
  · intro batch before lane inside
    have place : (batch + 1) * lanes.count + lane =
        lanes.count + (batch * lanes.count + lane) := by
      rw [Nat.succ_mul]
      omega
    rw [evaluateInstance_drop, ← place]
    exact traced (batch + 1) (Nat.succ_lt_succ before) lane inside

theorem SameProgram.tracesOf_eq {later : Circuit lanes} (same : SameProgram circuit later) :
    later.TracesOf = circuit.TracesOf := by
  ext1 gates
  unfold TracesOf
  rw [same.evaluateInstance_eq]

/-- Instances that are long enough have traces. -/
theorem Sound.exists_traces (sound : circuit.Sound gates) (generator : Generator)
    (long : ∀ input ∈ instances, circuit.header.inputBytes ≤ input.length) :
    ∃ traces, circuit.TracesOf gates instances generator traces := by
  induction instances using lanes.batch_induction generalizing generator with
  | nil =>
    refine ⟨fun _ => [], ?_⟩
    intro batch before
    rw [List.length_nil, lanes.batches_zero] at before
    cases before
  | batch instances nonempty ih =>
    obtain ⟨traces, rest⟩ := ih (generator.after lanes (Gate.draws gates))
      fun input member => long input (List.mem_of_mem_drop member)
    have accepts := accepts_firstRows long nonempty
      (List.length_replicate (a := (0 : UInt8)) (n := lanes.count * circuit.header.inputBytes))
      (List.length_replicate (a := (0 : UInt8)) (n := lanes.count * circuit.header.outputBytes))
    have evaluated : ∀ lane < lanes.count, _ =
        circuit.evaluateInstance gates instances generator lane :=
      fun lane inside => sound.lane_computation_firstRows long accepts inside
    exact ⟨_, lanewise_cons nonempty
      (fun lane inside => congrArg Evaluation.written (evaluated lane inside)) rest⟩

/-- The first batch and the rest of the series make the whole. -/
theorem RunsBatch.runsSeries {supplied : Nat → Option R} {traces : Nat → List (Register lanes)}
    {done : List Bytes} {kept : List R} {last : SeriesOutcome lanes A R}
    (nonempty : instances ≠ [])
    (traced : circuit.TracesOf gates instances generator traces)
    (ran : circuit.RunsBatch gates instances generator outputs (supplied 0) (traces 0) outcome)
    (rest : outcome.circuit.RunsSeries gates (instances.drop lanes.count) outcome.generator supply
      (supply supplier number).2 (number + 1) (fun batch => supplied (batch + 1))
      (done ++ Bits.rows outcome.circuit.header.outputBytes (instances.take lanes.count).length
        outcome.outputs) (kept ++ outcome.recorder.toList) (fun batch => traces (batch + 1))
      last) :
    circuit.RunsSeries gates instances generator supply supplier number supplied done kept traces
      last := by
  refine ⟨?_, ?_, traced⟩
  · rw [rest.result, batches_eq_succ nonempty, keptRecorders_succ,
      answers_eq_append circuit gates instances, ran.program.header, ran.rows, ran.kept, ran.drawn,
      ran.program.answers_eq, List.append_assoc, List.append_assoc]
  · rw [rest.supplier, batches_eq_succ nonempty]
    rfl

theorem Prepared.accepts (prepared : circuit.Prepared gates instances buffer outputs)
    (nonempty : instances ≠ []) :
    circuit.Accepts (refill buffer (circuit.firstRows instances)) outputs
      (instances.take lanes.count).length :=
  accepts_firstRows prepared.long nonempty prepared.inputsSized prepared.outputsSized

/-- A batch leaves the circuit and the buffers as the rest of the series needs them. -/
theorem Prepared.afterBatch {trace : List (Register lanes)}
    (prepared : circuit.Prepared gates instances buffer outputs)
    (ran : circuit.RunsBatch gates instances generator outputs recorder trace outcome) :
    outcome.circuit.Prepared gates (instances.drop lanes.count)
      (refill buffer (circuit.firstRows instances)) outcome.outputs := by
  have header := ran.program.header
  refine ⟨prepared.sound.of_sameProgram ran.program, ?_, ?_, ?_⟩
  · intro input member
    rw [header]
    exact prepared.long input (List.mem_of_mem_drop member)
  · rw [length_refill_firstRows prepared.long prepared.inputsSized, prepared.inputsSized, header]
  · rw [ran.buffer, prepared.outputsSized, header]

end Step

section Whole

variable {instances : List Bytes} {generator : Generator} {supplier : A} {number : Nat}
  {buffer outputs : Bytes} {traces : Nat → List (Register lanes)}
  (prepared : circuit.Prepared gates instances buffer outputs)
  (traced : circuit.TracesOf gates instances generator traces)

include prepared traced

/-- The remaining instances, from any batch on. The induction takes the first batch off; what it
leaves in the memory and in the buffers is as good as what was there before. -/
theorem Prepared.runSeriesFrom_runs {supplied : Nat → Option R}
    (takes : Takes supply supplier number (lanes.batches instances.length) traces supplied)
    (done : Array Bytes) (kept : Array R) :
    circuit.RunsSeries gates instances generator supply supplier number supplied done.toList
      kept.toList traces (runSeriesFrom supply circuit generator supplier number buffer outputs done
        kept instances) := by
  induction instances using lanes.batch_induction
    generalizing circuit buffer outputs generator supplier number traces supplied done kept with
  | nil =>
    have none : lanes.batches ([] : List Bytes).length = 0 := lanes.batches_zero
    refine ⟨?_, ?_, traced⟩
    · rw [none, runSeriesFrom_nil]
      simp [answers, keptRecorders]
    · rw [none, runSeriesFrom_nil]
      rfl
  | batch instances empty ih =>
    rw [batches_eq_succ empty, takes_succ_iff] at takes
    obtain ⟨answered, keeps, takesLater⟩ := takes
    obtain ⟨first, rest⟩ := traced.uncons empty
    have accepts := prepared.accepts empty
    have ran := prepared.sound.run_rows_of_keep prepared.long accepts first keeps
    have asked : supply supplier number = (.ok (supplied 0), (supply supplier number).2) :=
      Prod.ext answered rfl
    rw [runSeriesFrom_of_batch empty asked rfl ran.succeeded]
    generalize circuit.run _ outputs (supplied 0) _ generator = outcome at ran ⊢
    rw [← ran.drawn, ← ran.program.tracesOf_eq] at rest
    have runs := ih (prepared.afterBatch ran) rest takesLater
      (done ++ Bits.rows outcome.circuit.header.outputBytes (instances.take lanes.count).length
        outcome.outputs) (kept ++ outcome.recorder.toList)
    rw [Array.toList_appendList, Array.toList_appendList] at runs
    exact ran.runsSeries empty traced runs

end Whole

variable {instances : List Bytes}

theorem runSeries_of_short {short : Bytes} (circuit : Circuit lanes)
    (found : instances.find? (·.length < circuit.header.inputBytes) = some short)
    (generator : Generator) (supply : RecorderSupplier A R) (supplier : A) :
    circuit.runSeries instances generator supply supplier =
      ⟨.error (.inputTooShort circuit.header.inputBytes short.length), circuit, generator, supplier,
        []⟩ := by
  rw [runSeries]
  simp only [found]

theorem runSeries_of_long (circuit : Circuit lanes)
    (long : ∀ input ∈ instances, circuit.header.inputBytes ≤ input.length)
    (generator : Generator) (supply : RecorderSupplier A R) (supplier : A) :
    ∃ warnings, circuit.runSeries instances generator supply supplier =
      { runSeriesFrom supply circuit generator supplier 0
          (List.replicate (lanes.count * circuit.header.inputBytes) 0)
          (List.replicate (lanes.count * circuit.header.outputBytes) 0) #[] #[] instances with
        warnings := warnings } := by
  have enough : instances.find? (·.length < circuit.header.inputBytes) = none := by
    rw [List.find?_eq_none]
    intro input member
    simpa using long input member
  rw [runSeries]
  simp only [enough]
  exact ⟨_, rfl⟩

/-- The buffers that a series begins with. -/
theorem Sound.prepared (sound : circuit.Sound gates)
    (long : ∀ input ∈ instances, circuit.header.inputBytes ≤ input.length) :
    circuit.Prepared gates instances (List.replicate (lanes.count * circuit.header.inputBytes) 0)
      (List.replicate (lanes.count * circuit.header.outputBytes) 0) :=
  ⟨sound, long, List.length_replicate, List.length_replicate⟩

/-- A whole series, whatever earlier calls left in the memory. -/
theorem Sound.runSeries_runs (sound : circuit.Sound gates)
    (long : ∀ input ∈ instances, circuit.header.inputBytes ≤ input.length) (generator : Generator)
    {supplier : A} {supplied : Nat → Option R}
    (answered : ∀ batch < lanes.batches instances.length,
      (supply (supply.after supplier 0 batch) batch).1 = .ok (supplied batch))
    (reliable : ∀ batch < lanes.batches instances.length, Recorder.Reliable (supplied batch)) :
    ∃ traces, circuit.RunsSeries gates instances generator supply supplier 0 supplied [] [] traces
      (circuit.runSeries instances generator supply supplier) := by
  obtain ⟨traces, traced⟩ := sound.exists_traces generator long
  obtain ⟨warnings, whole⟩ := runSeries_of_long circuit long generator supply supplier
  have takes : Takes supply supplier 0 (lanes.batches instances.length) traces supplied := by
    refine ⟨?_, fun batch before => reliable batch before _⟩
    intro batch before
    rw [Nat.zero_add]
    exact answered batch before
  have runs := (sound.prepared long).runSeriesFrom_runs traced takes #[] #[]
  refine ⟨traces, ?_⟩
  rw [whole]
  exact ⟨runs.result, runs.supplier, traced⟩

end Run

/-- A series evaluates every instance alone, whatever earlier calls left in the memory. There is one
output for each instance, packed from the evaluation of its bytes, and the recorders that the
supplier answers with do not change that: it is asked once for each batch in order, and its
recorders come back told of everything that the gates wrote for each lane. -/
theorem series_evaluates_instances {circuit : Circuit lanes} {reservation : Reservation}
    {length : Option UInt64} {source : ByteSource}
    (loaded : read lanes reservation length source = .ok circuit)
    {earlier : Ram lanes} (sized : earlier.size = circuit.ram.size) {instances : List Bytes}
    (long : ∀ input ∈ instances, circuit.header.inputBytes ≤ input.length)
    (generator : Generator) :
    let start : Circuit lanes := { circuit with ram := earlier }
    let batches := lanes.batches instances.length
    ∃ (gates : List Gate) (outputs : List Bytes), circuit.gates = gates.map .ok ∧
      let evaluation := circuit.evaluateInstance gates instances generator
      (start.runSeriesUntraced instances generator).result = .ok (outputs, []) ∧
        outputs.length = instances.length ∧
        (∀ index (inside : index < outputs.length),
          outputs[index].length = circuit.header.outputBytes ∧
            Bits.Packs outputs[index] (circuit.outputs.map (evaluation index).cells)) ∧
        ∀ (A R : Type) [Recorder lanes R] (supply : RecorderSupplier A R) (supplier : A)
            (supplied : Nat → Option R),
          (∀ batch < batches,
            (supply (supply.after supplier 0 batch) batch).1 = .ok (supplied batch)) →
          (∀ batch < batches, Recorder.Reliable (supplied batch)) →
          let outcome := start.runSeries instances generator supply supplier
          ∃ traces : Nat → List (Register lanes),
            outcome.result = .ok (outputs, keptRecorders supplied traces batches) ∧
              outcome.supplier = supply.after supplier 0 batches ∧
              ∀ batch < batches, ∀ lane < lanes.count, (traces batch).map (·.lane lane) =
                (evaluation (batch * lanes.count + lane)).written := by
  intro start batches
  obtain ⟨gates, loadedSound⟩ := (accepted_of_read loaded).sound
  have sound : start.Sound gates := loadedSound.of_sameProgram ⟨rfl, rfl, rfl, rfl, sized⟩
  refine ⟨gates, circuit.answers gates instances generator, loadedSound.decoded, ?_, ?_, ?_, ?_⟩
  · obtain ⟨traces, runs⟩ : ∃ traces, start.RunsSeries gates instances generator
        (fun supplier _ => (.ok none, supplier)) () 0 (fun _ => (none : Option (Untraced lanes)))
        [] [] traces (start.runSeriesUntraced instances generator) :=
      sound.runSeries_runs long generator (fun _ _ => rfl) fun _ _ => Recorder.reliable_none
    have result := runs.result
    have unkept :
        keptRecorders (fun _ => (none : Option (Untraced lanes))) traces batches = [] := by
      simp [keptRecorders, Recorder.keep_none]
    rw [unkept] at result
    exact result
  · rw [answers, List.length_map, List.length_range]
  · intro index inside
    have packs : Bits.Packs (circuit.answers gates instances generator)[index]
        (circuit.outputs.map (circuit.evaluateInstance gates instances generator index).cells) := by
      simp only [answers, List.getElem_map, List.getElem_range]
      exact Bits.packs_toBytes _
    refine ⟨?_, packs⟩
    rw [packs.sized, List.length_map, loadedSound.outputsCounted, Header.outputBytes]
  · intro A R _ supply supplier supplied answered reliable
    obtain ⟨traces, runs⟩ := sound.runSeries_runs long generator answered reliable
    exact ⟨traces, runs.result, runs.supplier, runs.lanewise⟩

/-- Nine instances of the inverter on eight lanes, the last one in a batch of its own. The supplier
writes down what it is asked for. -/
theorem inverter_series :
    read .eight Reservation.standard none (ByteSource.ofBytes inverter) =
        .ok (inverterLoaded .eight) ∧
      let instances : List Bytes := List.replicate 8 [0] ++ [[128, 7]]
      let supply : RecorderSupplier (List Nat) (TraceList .eight) := fun asked batch =>
        (.ok (some (TraceList.empty .eight)), asked ++ [batch])
      let outcome := (inverterLoaded .eight).runSeries instances (Generator.ofSeed 2) supply []
      ∃ (outputs : List Bytes) (recorders : List (TraceList .eight)),
        ((inverterLoaded .eight).runSeriesUntraced instances (Generator.ofSeed 2)).result =
            .ok (outputs, []) ∧
          outcome.result = .ok (outputs, recorders) ∧ outcome.supplier = [0, 1] ∧
          ∃ inside : 8 < outputs.length, Bits.Packs outputs[0] [true] ∧
            Bits.Packs outputs[8] [false] := by
  have loaded : read .eight Reservation.standard none (ByteSource.ofBytes inverter) =
      .ok (inverterLoaded .eight) := read_inverter .eight
  refine ⟨loaded, ?_⟩
  intro instances supply outcome
  have long : ∀ input ∈ instances, (inverterLoaded .eight).header.inputBytes ≤ input.length := by
    decide
  obtain ⟨gates, outputs, decoded, untraced, counted, packed, traced⟩ :=
    series_evaluates_instances loaded rfl long (Generator.ofSeed 2)
  obtain rfl : gates = [⟨.not, 0, 0, 1⟩] :=
    (List.map_inj_right fun _ _ => Except.ok.inj).mp
      (decoded.symm.trans (sound_inverterLoaded .eight).decoded)
  obtain ⟨traces, succeeded, asked, -⟩ := traced (List Nat) (TraceList .eight) supply []
    (fun _ => some (TraceList.empty .eight)) (fun _ _ => rfl)
    (fun _ _ => (Recorder.reliable_traceList _).some)
  have inside : 8 < outputs.length := by
    rw [counted]
    decide
  have order : supply.after [] 0 (Lanes.eight.batches instances.length) = [0, 1] := by
    decide
  have inverted : ∀ index, (inverterLoaded .eight).outputs.map ((inverterLoaded
      .eight).evaluateInstance [⟨.not, 0, 0, 1⟩] instances (Generator.ofSeed 2) index).cells =
        [!Bits.bitAt ((instances.getD index []).take 1) 0] :=
    fun _ => rfl
  have first : Bits.bitAt ((instances.getD 0 []).take 1) 0 = false := by decide
  have last : Bits.bitAt ((instances.getD 8 []).take 1) 0 = true := by decide
  obtain ⟨-, firstPacked⟩ := packed 0 (Nat.zero_lt_of_lt inside)
  obtain ⟨-, lastPacked⟩ := packed 8 inside
  rw [inverted, first] at firstPacked
  rw [inverted, last] at lastPacked
  exact ⟨outputs, _, untraced, succeeded, asked.trans order, inside, firstPacked, lastPacked⟩

end Circuit

end Bitslice
