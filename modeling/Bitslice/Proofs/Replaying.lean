import Bitslice.Execution.TraceFile
import Bitslice.Proofs.Files
import Bitslice.Proofs.Writers
import Bitslice.Trace.Replay

/-!
# Replaying a run's trace gives its memory

Replay and execution walk over the gates each in its own way. While both go on,
the memory is what it was at the start, overlaid with the cells that replay has
collected (`Trace.Overlaid`), so the trace of a whole run is replayed to exactly
the cells that the run has written.
-/

namespace Bitslice

variable {lanes : Lanes}

namespace Trace

/-- Replaying from a source is replaying what the source yields. -/
theorem replayGates_eq (source : ByteSource) (read : Nat) (cells : CellMap lanes)
    (gates : List (Except Malformed Gate)) :
    replayGates source read cells gates = assignItems read cells (items lanes source) gates := by
  induction gates generalizing source read cells with
  | nil =>
    rw [replayGates]
    match answered : next? lanes source with
    | (none, later) => rw [items_of_end answered]; rfl
    | (some (.error cause), later) => rw [items_of_failure answered]; rfl
    | (some (.ok register), later) => rw [items_of_record answered]; rfl
  | cons item gates ih =>
    match item with
    | .error cause =>
      rw [replayGates, assignItems]
    | .ok gate =>
      rw [replayGates]
      match answered : next? lanes source with
      | (none, later) => rw [items_of_end answered]; rfl
      | (some (.error cause), later) => rw [items_of_failure answered]; rfl
      | (some (.ok register), later) =>
        rw [items_of_record answered, assignItems]
        exact ih later (read + 1) _

theorem replay_eq (circuit : Circuit lanes) (source : ByteSource) :
    replay circuit source = replayItems circuit (items lanes source) :=
  replayGates_eq source 0 ∅ circuit.gates

/-- The memory holds in the cells of a map what the map says, and in all others what it held at
the start. -/
def Overlaid (start : Ram lanes) (cells : CellMap lanes) (ram : Ram lanes) : Prop :=
  ∀ address : UInt64, ram.cell address = (cells[address.toNat]?).getD (start.cell address)

theorem overlaid_empty (start : Ram lanes) : Overlaid start ∅ start := by
  intro address
  rw [Std.TreeMap.getElem?_emptyc]
  rfl

/-- One gate: the cell that is written is the one that is collected. -/
theorem Overlaid.write {start ram : Ram lanes} {cells : CellMap lanes}
    (overlaid : Overlaid start cells ram) {address : UInt64} (inside : address.toNat < ram.size)
    (register : Register lanes) :
    Overlaid start (cells.insert address.toNat register) (ram.write address register) := by
  intro other
  rw [Ram.cell_write inside, Std.TreeMap.getElem?_insert]
  by_cases same : other = address
  · subst same
    simp
  · have apart : compare address.toNat other.toNat ≠ .eq := by
      intro equal
      exact same (UInt64.toNat_inj.mp (Std.LawfulEqOrd.eq_of_compare equal).symm)
    rw [if_neg same, if_neg apart]
    exact overlaid other

/-- All gates: their trace is assigned to their destinations. The induction is on the gates, over
the memory and the map reached so far. -/
theorem assignItems_compute {start ram : Ram lanes} {cells : CellMap lanes} {gates : List Gate}
    (inside : ∀ gate ∈ gates, gate.Inside ram.size) (overlaid : Overlaid start cells ram)
    (generator : Generator) (read : Nat) :
    ∃ assigned, assignItems read cells ((Gate.compute ram generator gates).trace.map .ok)
        (gates.map .ok) = .ok assigned ∧
      Overlaid start assigned (Gate.compute ram generator gates).ram ∧
      ∀ key, key ∈ assigned ↔ key ∈ cells ∨ ∃ gate ∈ gates, gate.destination.toNat = key := by
  induction gates generalizing ram cells generator read with
  | nil => exact ⟨cells, rfl, overlaid, by simp⟩
  | cons gate gates ih =>
    have written : gate.destination.toNat < ram.size := by
      apply inside gate (.head _)
      simp [Gate.addresses]
    have laterInside : ∀ later ∈ gates, later.Inside
        (ram.write gate.destination (gate.value ram generator).1).size := by
      intro later member
      rw [Ram.size_write]
      exact inside later (.tail _ member)
    obtain ⟨assigned, walked, overlaidLater, keys⟩ :=
      ih laterInside (overlaid.write written (gate.value ram generator).1)
        (gate.value ram generator).2 (read + 1)
    refine ⟨assigned, walked, overlaidLater, ?_⟩
    intro key
    rw [keys, Std.TreeMap.mem_insert]
    simp only [List.mem_cons, exists_eq_or_imp, Nat.compare_eq_eq]
    constructor
    · rintro ((here | before) | later)
      · exact .inr (.inl here)
      · exact .inl before
      · exact .inr (.inr later)
    · rintro (before | here | later)
      · exact .inl (.inr before)
      · exact .inl (.inl here)
      · exact .inr later

end Trace

namespace Cells

/-- A cell that receives no wire is zero. -/
theorem ofInputs_of_not_mem {table : List UInt64} {address : UInt64} (unlisted : address ∉ table)
    (bit : Nat → Bool) : ofInputs table bit address = false := by
  refine store_of_not_mem zero ?_
  rwa [List.map_fst_zip (by simp)]

end Cells

namespace Circuit

variable {circuit : Circuit lanes} {gates : List Gate} {inputs outputs : Bytes} {batch : Nat}
  {generator : Generator}

/-- A map has exactly the cells that the gates write, each with what the memory holds there; in
every other cell the memory still has the inputs of each lane, and zero if it receives none. -/
structure Reproduces (circuit : Circuit lanes) (gates : List Gate) (inputs : Bytes) (batch : Nat)
    (ram : Ram lanes) (cells : CellMap lanes) : Prop where
  keys : ∀ key, key ∈ cells ↔ ∃ gate ∈ gates, gate.destination.toNat = key
  values : ∀ key ∈ cells, cells[key]? = ram[key]?
  inputsKept : ∀ address : UInt64, address.toNat ∉ cells → ∀ lane < lanes.count,
    (ram.cell address).lane lane = Cells.ofInputs circuit.inputs (fun wire =>
      decide (lane < batch) && Bits.wire circuit.header.inputBytes inputs lane wire) address
  othersZero : ∀ address : UInt64, address.toNat ∉ cells → address ∉ circuit.inputs →
    ram.cell address = 0

/-- The whole trace of a computation is replayed to what the computation leaves behind. -/
theorem Sound.replayItems_computation (sound : circuit.Sound gates)
    (accepts : circuit.Accepts inputs outputs batch) (generator : Generator) :
    ∃ cells, Trace.assignItems 0 ∅
        ((circuit.computation gates inputs batch generator).trace.map .ok) circuit.gates =
          .ok cells ∧
      circuit.Reproduces gates inputs batch
        (circuit.computation gates inputs batch generator).ram cells := by
  obtain ⟨cells, walked, overlaid, keys⟩ := Trace.assignItems_compute
    (sound.gates_inside_packed inputs batch) (Trace.overlaid_empty _) generator 0
  rw [← computation] at walked overlaid
  have destinations : ∀ key, key ∈ cells ↔ ∃ gate ∈ gates, gate.destination.toNat = key := by
    intro key
    rw [keys]
    simp
  have unwritten : ∀ address : UInt64, address.toNat ∉ cells →
      (circuit.computation gates inputs batch generator).ram.cell address =
        (circuit.packed inputs batch).cell address := by
    intro address absent
    rw [overlaid, Std.TreeMap.getElem?_eq_none absent]
    rfl
  have inputsKept : ∀ address : UInt64, address.toNat ∉ cells → ∀ lane < lanes.count,
      ((circuit.computation gates inputs batch generator).ram.cell address).lane lane =
        Cells.ofInputs circuit.inputs (fun wire => decide (lane < batch) &&
          Bits.wire circuit.header.inputBytes inputs lane wire) address := by
    intro address absent lane inside
    rw [unwritten address absent, ← sound.laneCells_packed accepts inside]
    rfl
  refine ⟨cells, ?_, destinations, ?_, inputsKept, ?_⟩
  · rw [sound.decoded]
    exact walked
  · intro key present
    obtain ⟨gate, member, rfl⟩ := (destinations key).mp present
    have inside : gate.destination.toNat <
        (circuit.computation gates inputs batch generator).ram.size := by
      rw [computation, Gate.size_compute]
      apply sound.gates_inside_packed inputs batch gate member
      simp [Gate.addresses]
    have held := overlaid gate.destination
    rw [Std.TreeMap.getElem?_eq_some_getElem present] at held ⊢
    rw [Option.getD_some] at held
    rw [← held, Ram.cell, Array.getElem?_eq_getElem inside]
    simp [inside]
  · intro address absent unlisted
    apply Register.ext_lane
    intro lane inside
    rw [inputsKept address absent lane inside, Cells.ofInputs_of_not_mem unlisted,
      Register.lane_zero]

section Run

variable {R : Type} [Recorder lanes R]

/-- A run that succeeds has handed its recorder the whole trace, and this trace is replayed to
what the run has left behind. -/
theorem Sound.replays_run (sound : circuit.Sound gates) {recorder : R}
    (succeeded : (circuit.run inputs outputs recorder batch generator).result = .ok ()) :
    let outcome := circuit.run inputs outputs recorder batch generator
    let trace := (circuit.computation gates inputs batch generator).trace
    Recorder.keep recorder trace = (.ok (), outcome.recorder) ∧
      ∃ cells, Trace.replayItems outcome.circuit (trace.map .ok) = .ok cells ∧
        circuit.Reproduces gates inputs batch outcome.circuit.ram cells := by
  obtain ⟨accepts, keeps⟩ := sound.keep_of_run succeeded
  obtain ⟨cells, walked, reproduces⟩ := sound.replayItems_computation accepts generator
  refine ⟨keeps, cells, ?_⟩
  rw [sound.run_of_keep accepts keeps]
  exact ⟨walked, reproduces⟩

end Run

/-- Only the empty name stands for no trace file. -/
theorem filter_of_named {path : String} (named : path ≠ "") :
    (some path).filter (· ≠ "") = some path := by
  simp [named]

section ToFile

variable (sound : circuit.Sound gates) (accepts : circuit.Accepts inputs outputs batch)
  {path : String} (named : path ≠ "") {tree created : FileTree}
  (made : tree.createFile path = .ok created) (generator : Generator)

include sound accepts named made

/-- An accepted run with a named trace file records into the file, and whether or not that stops
the run, the file has as much of the trace as its device takes. -/
theorem Sound.runToFile_eq :
    circuit.runToFile inputs outputs (some path) batch generator tree =
      (let device := created.deviceAt path
      let recorder := StoredTrace.start lanes (FileWriter.start device)
      let trace := (circuit.computation gates inputs batch generator).trace
      ⟨circuit.run inputs outputs (some recorder) batch generator,
        created.storeBytes path (device.fitting (Trace.stored trace))⟩) := by
  have filled := (StoredTrace.keep_start (created.deviceAt path)
    (circuit.computation gates inputs batch generator).trace).2
  rw [runToFile, filter_of_named named]
  simp only [checkArguments_eq_ok_iff.mpr accepts, made, sound.run_eq accepts, Recorder.keep_some,
    ← filled]

/-- Such a run is answered as the device answers to its trace. -/
theorem Sound.runToFile_result :
    (circuit.runToFile inputs outputs (some path) batch generator tree).outcome.result =
      ((created.deviceAt path).answer (Trace.stored
        (circuit.computation gates inputs batch generator).trace).length).mapError .trace := by
  have answered := (StoredTrace.keep_start (created.deviceAt path)
    (circuit.computation gates inputs batch generator).trace).1
  rw [sound.runToFile_eq accepts named made]
  simp only
  rw [sound.run_eq accepts, Recorder.keep_some, ← answered]

/-- It succeeds exactly if the device has room for the trace. -/
theorem Sound.runToFile_ok_iff :
    (circuit.runToFile inputs outputs (some path) batch generator tree).outcome.result = .ok () ↔
      (created.deviceAt path).Holds
        (Trace.stored (circuit.computation gates inputs batch generator).trace).length := by
  rw [sound.runToFile_result accepts named made, ← Device.answer_eq_ok_iff]
  rcases (created.deviceAt path).answer _ with cause | ⟨⟩
  · exact ⟨nofun, nofun⟩
  · exact ⟨fun _ => rfl, fun _ => rfl⟩

/-- Where all files stand on one device, that device answers. -/
theorem Sound.runToFile_standingOn_result (device : Device) :
    (circuit.runToFile inputs outputs (some path) batch generator
        (tree.standingOn device)).outcome.result =
      (device.answer (Trace.stored
        (circuit.computation gates inputs batch generator).trace).length).mapError .trace := by
  obtain ⟨madeThere, stands⟩ := FileTree.createFile_standingOn made
  rw [sound.runToFile_result accepts named madeThere, stands]

end ToFile

/-- A run with a trace file whose arguments are refused changes nothing and makes no file. -/
theorem runToFile_of_refused {failure : RunFailure}
    (refused : circuit.checkArguments inputs.length outputs.length batch = .error failure)
    (path : Option String) (generator : Generator) (tree : FileTree) :
    circuit.runToFile inputs outputs path batch generator tree =
      ⟨⟨.error failure, circuit, outputs, none, generator⟩, tree⟩ := by
  unfold runToFile
  split
  · rw [run_of_refused refused]
  · rw [refused]

/-- A run with a named trace file that succeeds was accepted, and its file could be made. -/
theorem accepts_of_runToFile {path : String} {tree : FileTree} (named : path ≠ "")
    (succeeded : (circuit.runToFile inputs outputs (some path) batch generator
      tree).outcome.result = .ok ()) :
    circuit.Accepts inputs outputs batch ∧ ∃ created, tree.createFile path = .ok created := by
  rw [runToFile, filter_of_named named] at succeeded
  simp only at succeeded
  split at succeeded
  · cases succeeded
  · next checked =>
    split at succeeded
    · cases succeeded
    · next created made => exact ⟨checkArguments_eq_ok_iff.mp checked, created, made⟩

/-- A replayed run gives its memory back. Whatever earlier runs left in the memory, if a run with a
trace succeeds, then replaying the trace (as it was kept in memory, from the bytes that a sink
holds, or from the file it was written to, however these are delivered) gives exactly the cells
that gates write, with what the run left there; all other cells still hold the packed inputs. -/
theorem replay_reproduces_run {reservation : Reservation} {length : Option UInt64}
    {source : ByteSource} (loaded : read lanes reservation length source = .ok circuit)
    {earlier : Ram lanes} (sized : earlier.size = circuit.ram.size) (inputs outputs : Bytes)
    (batch : Nat) (generator : Generator) :
    let start : Circuit lanes := { circuit with ram := earlier }
    ∃ gates : List Gate, circuit.gates = gates.map .ok ∧
      (∀ outcome, start.run inputs outputs (TraceList.empty lanes) batch generator = outcome →
        outcome.result = .ok () →
        ∃ cells, Trace.replayItems outcome.circuit (outcome.recorder.records.toList.map .ok) =
            .ok cells ∧
          start.Reproduces gates inputs batch outcome.circuit.ram cells) ∧
      (∀ (W : Type) [StoringSink W] (sink : W), StoringSink.contents sink = [] →
        ∀ outcome, start.run inputs outputs (StoredTrace.start lanes sink) batch generator =
          outcome → outcome.result = .ok () →
        ∀ stored : ByteSource, stored.contents = StoringSink.contents outcome.recorder.sink →
          stored.failure = none →
        ∃ cells, Trace.replay outcome.circuit stored = .ok cells ∧
          start.Reproduces gates inputs batch outcome.circuit.ram cells) ∧
      ∀ (path : String) (tree : FileTree), path ≠ "" →
        ∀ done, start.runToFile inputs outputs (some path) batch generator tree = done →
          done.outcome.result = .ok () →
        ∃ file, done.tree.openFile path = .ok file ∧ file.source.failure = none ∧
          ∀ stored : ByteSource, stored.contents = file.source.contents → stored.failure = none →
          ∃ cells, Trace.replay done.outcome.circuit stored = .ok cells ∧
            start.Reproduces gates inputs batch done.outcome.circuit.ram cells := by
  intro start
  obtain ⟨gates, loadedSound⟩ := (accepted_of_read loaded).sound
  have sound : start.Sound gates := loadedSound.of_sameProgram ⟨rfl, rfl, rfl, rfl, sized⟩
  -- A trace that was stored is served again as the items of a trace kept in memory.
  have served : ∀ {W : Type} [StoringSink W] {sink : W} {kept : StoredTrace lanes W}
      {trace : List (Register lanes)}, StoringSink.contents sink = [] →
      Recorder.keep (StoredTrace.start lanes sink) trace = (.ok (), kept) →
      ∀ stored : ByteSource, stored.contents = StoringSink.contents kept.sink →
        stored.failure = none → Trace.items lanes stored = trace.map .ok := by
    intro W _ sink kept trace empty keeps stored whole ended
    refine Trace.items_stored ?_ ended
    rw [whole, StoredTrace.contents_of_keep keeps, StoredTrace.start, empty, List.nil_append]
  refine ⟨gates, loadedSound.decoded, ?_, ?_, ?_⟩
  · rintro outcome rfl succeeded
    obtain ⟨-, cells, replayed, reproduces⟩ := sound.replays_run succeeded
    rw [sound.records_of_run succeeded]
    exact ⟨cells, replayed, reproduces⟩
  · rintro W _ sink empty outcome rfl succeeded stored whole ended
    obtain ⟨keeps, cells, replayed, reproduces⟩ := sound.replays_run succeeded
    rw [Trace.replay_eq, served empty keeps stored whole ended]
    exact ⟨cells, replayed, reproduces⟩
  · rintro path tree named done rfl succeeded
    obtain ⟨accepts, created, made⟩ := accepts_of_runToFile named succeeded
    have room := (sound.runToFile_ok_iff accepts named made generator).mp succeeded
    rw [sound.runToFile_eq accepts named made] at succeeded ⊢
    obtain ⟨-, cells, replayed, reproduces⟩ := sound.replays_run succeeded
    refine ⟨_, FileTree.openFile_storeBytes made _, ByteSource.failure_ofBytes _, ?_⟩
    intro stored same ended
    rw [ByteSource.contents_ofBytes, room.fitting_eq] at same
    rw [Trace.replay_eq, Trace.items_stored same ended]
    exact ⟨cells, replayed, reproduces⟩

/-- The inverter's trace is replayed from memory, from a sink and from a file. -/
theorem inverter_is_replayed :
    read .eight Reservation.standard none (ByteSource.ofBytes inverter) =
        .ok (inverterLoaded .eight) ∧
      let start := inverterLoaded .eight
      let generator := Generator.ofSeed 3
      let listed := start.run [128] [0] (TraceList.empty .eight) 1 generator
      let stored := start.run [128] [0] (StoredTrace.start .eight BoundedBuffer.unbounded) 1
        generator
      let filed := start.runToFile [128] [0] (some "t") 1 generator (FileTree.empty "w")
      (∃ cells, Trace.replayItems listed.circuit (listed.recorder.records.toList.map .ok) =
          .ok cells ∧ cells[1]? = some 254) ∧
        (∃ cells, Trace.replay stored.circuit (ByteSource.ofBytes [254]) = .ok cells ∧
          0 ∉ cells) ∧
        ∃ file, filed.tree.openFile "t" = .ok file ∧
          ∃ cells, Trace.replay filed.outcome.circuit file.source = .ok cells ∧ 1 ∈ cells := by
  refine ⟨read_inverter .eight, ?_⟩
  intro start generator
  have loaded : read .eight Reservation.standard none (ByteSource.ofBytes inverter) = .ok start :=
    read_inverter .eight
  obtain ⟨gates, decoded, listed, stored, filed⟩ := replay_reproduces_run loaded
    (rfl : start.ram.size = start.ram.size) [128] [0] 1 generator
  have sound := sound_inverterLoaded .eight
  obtain rfl : gates = [⟨.not, 0, 0, 1⟩] :=
    (List.map_inj_right fun _ _ => Except.ok.inj).mp (decoded.symm.trans sound.decoded)
  have accepts : (inverterLoaded .eight).Accepts [128] [0] 1 :=
    ⟨by decide, by decide, by decide, by decide⟩
  have packed : (inverterLoaded .eight).packed [128] 1 = #[1, 0] := by decide
  have reliable : Recorder.Reliable (StoredTrace.start .eight BoundedBuffer.unbounded) :=
    StoredTrace.reliable ByteSink.reliable_unbounded
  refine ⟨?_, ?_, ?_⟩
  · have succeeded : (start.run [128] [0] (TraceList.empty .eight) 1 generator).result = .ok () :=
      sound.run_of_reliable accepts (Recorder.reliable_traceList _)
    obtain ⟨cells, replayed, reproduces⟩ := listed _ rfl succeeded
    have key : 1 ∈ cells := (reproduces.keys 1).mpr ⟨_, .head _, rfl⟩
    have left := reproduces.values 1 key
    rw [sound.ram_of_run succeeded, computation_inverter, packed] at left
    exact ⟨cells, replayed, left⟩
  · have succeeded : (start.run [128] [0] (StoredTrace.start .eight BoundedBuffer.unbounded) 1
        generator).result = .ok () := sound.run_of_reliable accepts reliable
    have holds := sound.stored_of_run rfl succeeded
    rw [computation_inverter, packed] at holds
    obtain ⟨cells, replayed, reproduces⟩ := stored BoundedBuffer BoundedBuffer.unbounded rfl _ rfl
      succeeded (ByteSource.ofBytes [254]) holds.symm rfl
    have noKey : 0 ∉ cells := by
      intro key
      obtain ⟨gate, member, same⟩ := (reproduces.keys 0).mp key
      obtain rfl := List.mem_singleton.mp member
      cases same
    exact ⟨cells, replayed, noKey⟩
  · have made := FileTree.createFile_t "w"
    have named : "t" ≠ "" := by decide
    have succeeded : (start.runToFile [128] [0] (some "t") 1 generator
        (FileTree.empty "w")).outcome.result = .ok () :=
      (sound.runToFile_ok_iff accepts named made generator).mpr (by
        rw [FileTree.deviceAt_of_unlimited fun _ => rfl]
        trivial)
    obtain ⟨file, opened, ended, replays⟩ := filed "t" _ named _ rfl succeeded
    obtain ⟨cells, replayed, reproduces⟩ := replays file.source rfl ended
    exact ⟨file, opened, cells, replayed, (reproduces.keys 1).mpr ⟨_, .head _, rfl⟩⟩

end Circuit

end Bitslice
