import Bitslice.Proofs.Canonical
import Bitslice.Proofs.Computing

/-!
# Running a circuit refines single-bit evaluation

A run packs the inputs, computes the gates on all lanes at once and unpacks the
outputs. Lane by lane this is the evaluation of one instance:
`Circuit.evaluateLane` never sees the other lanes, nor what an earlier run left
in the memory.
-/

namespace Bitslice.Circuit

variable {lanes : Lanes}

/-- The evaluation of the instance in a lane, on its own row of the inputs. A lane behind the
batch has zero inputs; random bits come from the same lane of the draws. -/
def evaluateLane (circuit : Circuit lanes) (gates : List Gate) (inputs : Bytes) (batch : Nat)
    (generator : Generator) (lane : Nat) : Evaluation :=
  Gate.evaluateBits (fun number => (generator.drawn lanes number).lane lane) 0
    (Cells.ofInputs circuit.inputs fun wire =>
      decide (lane < batch) && Bits.wire circuit.header.inputBytes inputs lane wire) gates

/-- The memory from which the gates of a run start. -/
def packed (circuit : Circuit lanes) (inputs : Bytes) (batch : Nat) : Ram lanes :=
  circuit.ram.cleared.pack circuit.inputs inputs circuit.header.inputBytes batch

/-- The computation of a run. -/
def computation (circuit : Circuit lanes) (gates : List Gate) (inputs : Bytes) (batch : Nat)
    (generator : Generator) : Computation lanes :=
  Gate.compute (circuit.packed inputs batch) generator gates

/-- The batch fits the lanes and both buffers hold its rows. -/
structure Accepts (circuit : Circuit lanes) (inputs outputs : Bytes) (batch : Nat) : Prop where
  nonempty : 1 ≤ batch
  fits : batch ≤ lanes.count
  inputsHeld : batch * circuit.header.inputBytes ≤ inputs.length
  outputsHeld : batch * circuit.header.outputBytes ≤ outputs.length

variable {circuit : Circuit lanes} {gates : List Gate} {inputs outputs : Bytes} {batch : Nat}
  {generator : Generator}

theorem checkArguments_eq_ok_iff :
    circuit.checkArguments inputs.length outputs.length batch = .ok () ↔
      circuit.Accepts inputs outputs batch := by
  unfold checkArguments
  constructor
  · intro checked
    simp only at checked
    split at checked
    · cases checked
    · next fits =>
      split at checked
      · cases checked
      · next enough =>
        split at checked
        · cases checked
        · next room => exact ⟨by omega, by omega, Nat.le_of_not_lt enough, Nat.le_of_not_lt room⟩
  · rintro ⟨nonempty, fits, inputsHeld, outputsHeld⟩
    have width : ¬(batch = 0 ∨ lanes.count < batch) := by omega
    simp only
    rw [if_neg width, if_neg (Nat.not_lt_of_le inputsHeld), if_neg (Nat.not_lt_of_le outputsHeld)]

@[simp] theorem size_packed (circuit : Circuit lanes) (inputs : Bytes) (batch : Nat) :
    (circuit.packed inputs batch).size = circuit.ram.size := by
  rw [packed, Ram.size_pack, Ram.size_cleared]

/-- What no run changes: everything but the memory, and the size of that. -/
structure SameProgram (earlier later : Circuit lanes) : Prop where
  header : later.header = earlier.header
  inputs : later.inputs = earlier.inputs
  outputs : later.outputs = earlier.outputs
  stream : later.stream = earlier.stream
  cells : later.ram.size = earlier.ram.size

theorem SameProgram.refl (circuit : Circuit lanes) : SameProgram circuit circuit :=
  ⟨rfl, rfl, rfl, rfl, rfl⟩

theorem SameProgram.trans {first second third : Circuit lanes} (before : SameProgram first second)
    (after : SameProgram second third) : SameProgram first third :=
  ⟨after.header.trans before.header, after.inputs.trans before.inputs,
    after.outputs.trans before.outputs, after.stream.trans before.stream,
    after.cells.trans before.cells⟩

/-- Another memory of the same size is as good. -/
theorem Sound.of_sameProgram (sound : circuit.Sound gates) {later : Circuit lanes}
    (same : SameProgram circuit later) : later.Sound gates := by
  obtain ⟨header, wires, results, stream, ram⟩ := later
  obtain ⟨rfl, rfl, rfl, rfl, cells⟩ := same
  exact { sound with cellsCounted := cells.trans sound.cellsCounted }

section Covered

variable (sound : circuit.Sound gates)

include sound

/-- The rows of the inputs have a bit for every wire. -/
theorem Sound.inputs_covered : circuit.inputs.length ≤ 8 * circuit.header.inputBytes := by
  rw [sound.inputsCounted, Header.inputBytes]
  omega

/-- The rows of the outputs have a bit for every wire. -/
theorem Sound.outputs_covered : circuit.outputs.length ≤ 8 * circuit.header.outputBytes := by
  rw [sound.outputsCounted, Header.outputBytes]
  omega

theorem Sound.gates_inside_packed (inputs : Bytes) (batch : Nat) :
    ∀ gate ∈ gates, gate.Inside (circuit.packed inputs batch).size := by
  intro gate member address used
  rw [size_packed, sound.cellsCounted]
  exact sound.gatesInside gate member address used

theorem Sound.inputs_inside_cleared :
    ∀ address ∈ circuit.inputs, address.toNat < circuit.ram.cleared.size := by
  intro address member
  rw [Ram.size_cleared, sound.cellsCounted]
  exact sound.inputsInside address member

/-- After packing, each lane holds the inputs of its instance on cleared cells. -/
theorem Sound.laneCells_packed (accepts : circuit.Accepts inputs outputs batch) {lane : Nat}
    (laneInside : lane < lanes.count) :
    (circuit.packed inputs batch).laneCells lane = Cells.ofInputs circuit.inputs fun wire =>
      decide (lane < batch) && Bits.wire circuit.header.inputBytes inputs lane wire := by
  rw [packed, Ram.laneCells_pack sound.inputs_inside_cleared sound.inputs_covered accepts.fits
    laneInside, Ram.laneCells_cleared]
  by_cases empty : circuit.header.inputBytes = 0
  · have none : circuit.inputs = [] := by
      have covered := sound.inputs_covered
      rw [empty] at covered
      exact List.length_eq_zero_iff.mp (by omega)
    simp [none, Cells.ofInputs, Cells.store]
  · have rows : min batch (inputs.length / circuit.header.inputBytes) = batch := by
      have held := (Nat.le_div_iff_mul_le (Nat.pos_of_ne_zero empty)).mpr accepts.inputsHeld
      exact Nat.min_eq_left held
    rw [rows]
    by_cases occupied : lane < batch
    · simp only [occupied, decide_true, Bool.true_and]
      rfl
    · simp only [occupied, decide_false, Bool.false_and]
      refine (Cells.zero_store ?_).symm
      rintro ⟨address, bit⟩ member
      obtain ⟨wire, -, same⟩ := List.mem_map.mp (List.of_mem_zip member).2
      exact same.symm

/-- Each lane of the computation of a run is the evaluation of its instance. -/
theorem Sound.lane_computation (accepts : circuit.Accepts inputs outputs batch) {lane : Nat}
    (laneInside : lane < lanes.count) :
    (circuit.computation gates inputs batch generator).lane lane =
      circuit.evaluateLane gates inputs batch generator lane := by
  rw [evaluateLane, ← sound.laneCells_packed accepts laneInside]
  apply Gate.lane_compute (sound.gates_inside_packed inputs batch)
  intro number
  rw [Nat.zero_add]

/-- A run whose recorder takes the whole trace leaves behind what the computation does. -/
theorem Sound.run_of_keep {R : Type} [Recorder lanes R]
    (accepts : circuit.Accepts inputs outputs batch) {recorder kept : R}
    (keeps : Recorder.keep recorder (circuit.computation gates inputs batch generator).trace =
      (.ok (), kept)) :
    circuit.run inputs outputs recorder batch generator =
      ⟨.ok (), { circuit with ram := (circuit.computation gates inputs batch generator).ram },
        (circuit.computation gates inputs batch generator).ram.unpack circuit.outputs outputs
          circuit.header.outputBytes batch,
        kept, (circuit.computation gates inputs batch generator).generator⟩ := by
  have applied := applyGates_of_keep (sound.gates_inside_packed inputs batch) keeps
  rw [run, checkArguments_eq_ok_iff.mpr accepts, sound.decoded, ← packed]
  simp only [applied]
  rfl

end Covered

/-- Unpacking takes as many rows as the batch has, unless there are no output wires. -/
theorem Accepts.rows_unpacked (accepts : circuit.Accepts inputs outputs batch)
    (nonempty : 0 < circuit.header.outputBytes) :
    min batch (outputs.length / circuit.header.outputBytes) = batch :=
  Nat.min_eq_left ((Nat.le_div_iff_mul_le nonempty).mpr accepts.outputsHeld)

theorem Accepts.drop_unpack (accepts : circuit.Accepts inputs outputs batch) (ram : Ram lanes) :
    (ram.unpack circuit.outputs outputs circuit.header.outputBytes batch).drop
        (batch * circuit.header.outputBytes) =
      outputs.drop (batch * circuit.header.outputBytes) := by
  by_cases empty : circuit.header.outputBytes = 0
  · rw [Ram.unpack, if_pos empty]
  · have rows := accepts.rows_unpacked (Nat.pos_of_ne_zero empty)
    have behind : (ram.unpack circuit.outputs outputs circuit.header.outputBytes batch).drop
        (min batch (outputs.length / circuit.header.outputBytes) * circuit.header.outputBytes) =
          _ := ram.drop_unpack
    rwa [rows] at behind

/-- Running a loaded circuit refines evaluating single instances. Whatever earlier runs left in the
memory, an accepted run succeeds; every lane of the memory and of the trace is that of the
evaluation of its instance alone, the outputs are read from there, unused bits of the output rows
are zero and the bytes behind these rows stay. -/
theorem run_refines_evaluation {reservation : Reservation} {length : Option UInt64}
    {source : ByteSource} (loaded : read lanes reservation length source = .ok circuit)
    {R : Type} [Recorder lanes R] {recorder : R} (reliable : Recorder.Reliable recorder)
    (accepts : circuit.Accepts inputs outputs batch) (generator : Generator)
    {earlier : Ram lanes} (sized : earlier.size = circuit.ram.size) :
    ∃ (gates : List Gate) (trace : List (Register lanes)), circuit.gates = gates.map .ok ∧
      let outcome := run { circuit with ram := earlier } inputs outputs recorder batch generator
      let evaluation := circuit.evaluateLane gates inputs batch generator
      let size := circuit.header.outputBytes
      outcome.result = .ok () ∧
        outcome.recorder = (Recorder.keep recorder trace).2 ∧
        outcome.circuit.ram.size = circuit.header.memory.toNat ∧
        (∀ lane < lanes.count, outcome.circuit.ram.laneCells lane = (evaluation lane).cells ∧
          trace.map (·.lane lane) = (evaluation lane).written) ∧
        (∀ row < batch, ∀ wire (listed : wire < circuit.outputs.length),
          Bits.wire size outcome.outputs row wire =
            (evaluation row).cells circuit.outputs[wire]) ∧
        (∀ row < batch, ∀ wire < 8 * size, circuit.outputs.length ≤ wire →
          Bits.wire size outcome.outputs row wire = false) ∧
        outcome.outputs.length = outputs.length ∧
        outcome.outputs.drop (batch * size) = outputs.drop (batch * size) := by
  obtain ⟨gates, loadedSound⟩ := (accepted_of_read loaded).sound
  have sound : Sound { circuit with ram := earlier } gates :=
    loadedSound.of_sameProgram ⟨rfl, rfl, rfl, rfl, sized⟩
  have acceptsToo : Accepts { circuit with ram := earlier } inputs outputs batch :=
    ⟨accepts.nonempty, accepts.fits, accepts.inputsHeld, accepts.outputsHeld⟩
  generalize computed : computation { circuit with ram := earlier } gates inputs batch generator =
    finished
  have lanewise : ∀ lane < lanes.count, finished.lane lane =
      circuit.evaluateLane gates inputs batch generator lane := by
    intro lane inside
    rw [← computed]
    exact sound.lane_computation acceptsToo inside
  have wires : ∀ row < batch, ∀ wire < 8 * circuit.header.outputBytes,
      Bits.wire circuit.header.outputBytes (finished.ram.unpack circuit.outputs outputs
        circuit.header.outputBytes batch) row wire =
        (circuit.outputs[wire]?.map (finished.ram.laneCells row)).getD false := by
    intro row occupied wire below
    have rows := accepts.rows_unpacked (by omega)
    exact Ram.wire_unpack _ (by rw [rows]; exact occupied) below
  have keeps : Recorder.keep recorder finished.trace =
      (.ok (), (Recorder.keep recorder finished.trace).2) :=
    Prod.ext (reliable finished.trace) rfl
  rw [← computed] at keeps
  have ran := sound.run_of_keep acceptsToo keeps
  rw [computed] at ran
  refine ⟨gates, finished.trace, loadedSound.decoded, ?_⟩
  simp only [ran, true_and]
  refine ⟨?_, ?_, ?_, ?_, Ram.length_unpack _, accepts.drop_unpack finished.ram⟩
  · rw [← computed, computation, Gate.size_compute, size_packed]
    exact sound.cellsCounted
  · intro lane inside
    have same := lanewise lane inside
    exact ⟨congrArg Evaluation.cells same, congrArg Evaluation.written same⟩
  · intro row occupied wire listed
    have same := lanewise row (Nat.lt_of_lt_of_le occupied accepts.fits)
    rw [wires row occupied wire (Nat.lt_of_lt_of_le listed loadedSound.outputs_covered),
      List.getElem?_eq_getElem listed]
    exact congrFun (congrArg Evaluation.cells same) _
  · intro row occupied wire below unlisted
    rw [wires row occupied wire below, List.getElem?_eq_none unlisted]
    rfl

/-- Two instances of the inverter, side by side: the first output is set and the second is not. -/
theorem inverter_runs :
    ∃ circuit : Circuit .eight,
      read .eight Reservation.standard none (ByteSource.ofBytes inverter) = .ok circuit ∧
        let outcome := circuit.run [0, 128] [9, 9, 9] (none : Option (Untraced .eight)) 2
          (Generator.ofSeed 7)
        outcome.result = .ok () ∧ Bits.wire 1 outcome.outputs 0 0 = true ∧
          Bits.wire 1 outcome.outputs 1 0 = false ∧ outcome.outputs.drop 2 = [9] := by
  refine ⟨_, read_inverter .eight, ?_⟩
  have reliable : Recorder.Reliable (none : Option (Untraced .eight)) := Recorder.reliable_none
  obtain ⟨gates, trace, decoded, ran, -, -, -, wires, -, -, behind⟩ :=
    run_refines_evaluation (read_inverter .eight) reliable
      (⟨by decide, by decide, by decide, by decide⟩ : Accepts _ [0, 128] [9, 9, 9] 2)
      (Generator.ofSeed 7) rfl
  have listed : gates = [⟨.not, 0, 0, 1⟩] := by
    have known : [.ok ⟨.not, 0, 0, 1⟩] = gates.map (Except.ok : Gate → Except Malformed Gate) := by
      rw [← decoded]
      cbv
    exact (List.map_inj_right (fun _ _ => Except.ok.inj)).mp known.symm
  subst listed
  exact ⟨ran, wires 0 (by decide) 0 (by decide), wires 1 (by decide) 0 (by decide), behind⟩

end Bitslice.Circuit
