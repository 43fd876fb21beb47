import Bitslice.Proofs.Replaying
import Bitslice.Trace.Hashed

/-!
# Tracing is transparent

A recorder that takes the whole trace of a run changes nothing about the run
(`Circuit.Sound.agrees_of_keep`), and every recorder that takes it holds the
same: in memory the registers that the gates wrote, one for each, and in a sink,
in a file or behind a digest their stored form.
-/

namespace Bitslice

variable {lanes : Lanes}

/-- Calls that did the same, apart from what they told their recorders. -/
structure Outcome.Agrees {R S : Type} (first : Outcome lanes R) (second : Outcome lanes S) :
    Prop where
  result : second.result = first.result
  circuit : second.circuit = first.circuit
  outputs : second.outputs = first.outputs
  generator : second.generator = first.generator

namespace HashedTrace

variable {R : Type} [Recorder lanes R]

/-- The recorder behind a hashed trace is told the records that the hashed trace is told, and their
stored form is hashed. -/
theorem feed_of_ok {recorder fed : R} {trace : List (Register lanes)}
    (complete : Recorder.feed recorder trace = (.ok (), fed)) (hashed : Array UInt8)
    (accepted : Nat) :
    ∃ later : Array UInt8, later.toList = hashed.toList ++ Trace.stored trace ∧
      Recorder.feed (⟨recorder, hashed, accepted⟩ : HashedTrace R) trace =
        (.ok (), ⟨fed, later, accepted + trace.length⟩) := by
  induction trace generalizing recorder hashed accepted with
  | nil =>
    obtain rfl := (Prod.mk.inj complete).2
    exact ⟨hashed, (List.append_nil _).symm, rfl⟩
  | cons register rest ih =>
    rcases took : Recorder.record recorder register with ⟨cause | ⟨⟩, next⟩
    · rw [Recorder.feed, took] at complete
      cases complete
    · rw [Recorder.feed, took] at complete
      have step : Recorder.record (⟨recorder, hashed, accepted⟩ : HashedTrace R) register =
          (.ok (), ⟨next, hashed ++ register.encode, accepted + 1⟩) := by
        simp only [Recorder.record, took]
      obtain ⟨later, contents, all⟩ := ih complete (hashed ++ register.encode) (accepted + 1)
      refine ⟨later, ?_, ?_⟩
      · rw [contents, Trace.stored_cons, Array.toList_appendList, List.append_assoc]
      · rw [Recorder.feed, step]
        simp only
        rw [all, List.length_cons, Nat.add_assoc, Nat.add_comm 1]

/-- A hashed trace in front of a recorder that keeps a trace keeps it too. The recorder behind ends
as it would by itself, and the digest is that of the stored trace. -/
theorem keep_start {recorder kept : R} {trace : List (Register lanes)}
    (keeps : Recorder.keep recorder trace = (.ok (), kept)) :
    ∃ last : HashedTrace R, Recorder.keep (start recorder) trace = (.ok (), last) ∧
      last.inner = kept ∧ last.accepted = trace.length ∧
      last.digest = Digest.ofBytes (Trace.stored trace) := by
  obtain ⟨fed, complete, finished⟩ := Recorder.keep_eq_ok_iff.mp keeps
  obtain ⟨hashed, contents, all⟩ := feed_of_ok complete #[] 0
  refine ⟨⟨kept, hashed, 0 + trace.length⟩, ?_, rfl, Nat.zero_add _, ?_⟩
  · refine Recorder.keep_eq_ok_iff.mpr ⟨_, all, ?_⟩
    simp only [Recorder.finish, finished]
  · rw [digest, contents]
    rfl

end HashedTrace

/-- A stored trace counts the records that it takes. -/
theorem StoredTrace.written_of_keep {W : Type} [ByteSink W] {recorder kept : StoredTrace lanes W}
    {trace : List (Register lanes)} (keeps : Recorder.keep recorder trace = (.ok (), kept)) :
    kept.written = recorder.written + trace.length := by
  obtain ⟨fed, complete, finished⟩ := Recorder.keep_eq_ok_iff.mp keeps
  have counted : fed.written = recorder.written + trace.length := by
    clear keeps finished
    induction trace generalizing recorder with
    | nil =>
      obtain rfl := (Prod.mk.inj complete).2
      rfl
    | cons register later ih =>
      rcases written : ByteSink.write recorder.sink register.encode with ⟨cause | ⟨⟩, sink⟩
      · rw [Recorder.feed, record_of_refusal written] at complete
        cases complete
      · rw [Recorder.feed, record_of_write written] at complete
        rw [ih complete, List.length_cons, Nat.add_assoc, Nat.add_comm 1]
  rw [← counted]
  obtain ⟨-, rfl⟩ := Prod.mk.inj finished
  rfl

/-- One more gate: it adds the register that it writes to the trace, and writes it. -/
theorem Gate.compute_take (ram : Ram lanes) (generator : Generator) {gates : List Gate}
    {number : Nat} {gate : Gate} (listed : gates[number]? = some gate) :
    let before := compute ram generator (gates.take number)
    let written := gate.value before.ram before.generator
    ((compute ram generator gates).trace)[number]? = some written.1 ∧
      (compute ram generator (gates.take (number + 1))).ram =
        before.ram.write gate.destination written.1 ∧
      (compute ram generator (gates.take (number + 1))).generator = written.2 := by
  induction gates generalizing ram generator number with
  | nil => cases listed
  | cons first later ih =>
    obtain _ | number := number
    · obtain rfl := Option.some.inj listed
      exact ⟨rfl, rfl, rfl⟩
    · exact ih _ _ listed

namespace Circuit

/-- The memory and the generator of an accepted run when so many gates have been applied. -/
def progressAt (circuit : Circuit lanes) (inputs : Bytes) (batch : Nat) (generator : Generator)
    (number : Nat) : Progress lanes (Option (Untraced lanes)) :=
  (applyGates (circuit.packed inputs batch) none generator (circuit.gates.take number)).2

section Sound

variable {circuit : Circuit lanes} {gates : List Gate} {inputs outputs : Bytes} {batch : Nat}
  {generator : Generator} {R : Type} [Recorder lanes R]

theorem Sound.progressAt_eq (sound : circuit.Sound gates) (inputs : Bytes) (batch : Nat)
    (generator : Generator) (number : Nat) :
    circuit.progressAt inputs batch generator number =
      (let finished := Gate.compute (circuit.packed inputs batch) generator (gates.take number)
      ⟨finished.ram, none, finished.generator⟩) := by
  have inside : ∀ gate ∈ gates.take number, gate.Inside (circuit.packed inputs batch).size :=
    fun gate member =>
      sound.gates_inside_packed inputs batch gate (List.mem_of_mem_take member)
  rw [progressAt, sound.decoded, ← List.map_take, applyGates_of_keep inside (Recorder.keep_none _)]

/-- The register with a number in the trace is what the gate with that number writes. -/
theorem Sound.trace_getElem (sound : circuit.Sound gates) {number : Nat} {gate : Gate}
    (listed : gates[number]? = some gate) :
    let before := circuit.progressAt inputs batch generator number
    let after := circuit.progressAt inputs batch generator (number + 1)
    ∃ register,
      ((circuit.computation gates inputs batch generator).trace)[number]? = some register ∧
      gate.evaluate before.ram before.generator = .ok (register, after.generator) ∧
      after.ram = before.ram.write gate.destination register ∧
      after.ram.cell gate.destination = register := by
  intro before after
  simp only [before, after, sound.progressAt_eq]
  obtain ⟨written, ram, next⟩ :=
    Gate.compute_take (circuit.packed inputs batch) generator listed
  have inside : gate.Inside (Gate.compute (circuit.packed inputs batch) generator
      (gates.take number)).ram.size := by
    rw [Gate.size_compute]
    exact sound.gates_inside_packed inputs batch gate (List.mem_of_getElem? listed)
  have destination := inside gate.destination (by simp [Gate.addresses])
  refine ⟨_, written, ?_, ram, ?_⟩
  · rw [Gate.evaluate_eq_ok inside, next]
  · rw [ram, Ram.cell_write destination, if_pos rfl]

/-- A recorder that takes the whole trace changes nothing about a run. -/
theorem Sound.agrees_of_keep (sound : circuit.Sound gates)
    (accepts : circuit.Accepts inputs outputs batch) {recorder kept : R}
    (keeps : Recorder.keep recorder (circuit.computation gates inputs batch generator).trace =
      (.ok (), kept)) :
    (circuit.run inputs outputs (none : Option (Untraced lanes)) batch generator).Agrees
        (circuit.run inputs outputs recorder batch generator) ∧
      (circuit.run inputs outputs recorder batch generator).recorder = kept := by
  rw [sound.run_of_keep accepts keeps, sound.run_of_keep accepts (Recorder.keep_none _)]
  exact ⟨⟨rfl, rfl, rfl, rfl⟩, rfl⟩

/-- Without a recorder it makes no difference which one is missing. -/
theorem Sound.run_none_agrees (sound : circuit.Sound gates) (R S : Type) [Recorder lanes R]
    [Recorder lanes S] (inputs outputs : Bytes) (batch : Nat) (generator : Generator) :
    (circuit.run inputs outputs (none : Option R) batch generator).Agrees
      (circuit.run inputs outputs (none : Option S) batch generator) := by
  by_cases accepts : circuit.Accepts inputs outputs batch
  · rw [sound.run_of_keep accepts (Recorder.keep_none _),
      sound.run_of_keep accepts (Recorder.keep_none _)]
    exact ⟨rfl, rfl, rfl, rfl⟩
  · obtain ⟨failure, checked, ran⟩ := run_of_not_accepts accepts (none : Option R) generator
    obtain ⟨other, checkedToo, ranToo⟩ := run_of_not_accepts accepts (none : Option S) generator
    obtain rfl := Except.error.inj (checked.symm.trans checkedToo)
    rw [ran, ranToo]
    exact ⟨rfl, rfl, rfl, rfl⟩

end Sound

/-- Tracing is transparent, and all traces tell the same. Whatever earlier runs left in the memory,
an accepted run has one trace, a register for each gate: the one that the gate writes. With any
recorder that takes this trace the run does what it does without a recorder, and so does the run
with a trace file that can be made and has room. A trace kept in memory is this trace, a sink and
the file hold its stored form, and a hashed trace tells the recorder behind it the same and has the
digest of the stored form. Without a path, or with an empty one, there is no trace. -/
theorem tracing_is_transparent {reservation : Reservation} {length : Option UInt64}
    {source : ByteSource} {circuit : Circuit lanes}
    (loaded : read lanes reservation length source = .ok circuit) {earlier : Ram lanes}
    (sized : earlier.size = circuit.ram.size) {inputs outputs : Bytes} {batch : Nat}
    (accepts : circuit.Accepts inputs outputs batch) (generator : Generator) :
    let start : Circuit lanes := { circuit with ram := earlier }
    let plain := start.run inputs outputs (none : Option (Untraced lanes)) batch generator
    ∃ (program : List Gate) (records : List (Register lanes)),
      circuit.gates = program.map .ok ∧ records.length = circuit.header.gateCount.toNat ∧
      (∀ number (gate : Gate), program[number]? = some gate →
        let before := start.progressAt inputs batch generator number
        let after := start.progressAt inputs batch generator (number + 1)
        ∃ register, records[number]? = some register ∧
          gate.evaluate before.ram before.generator = .ok (register, after.generator) ∧
          after.ram = before.ram.write gate.destination register ∧
          after.ram.cell gate.destination = register) ∧
      plain.result = .ok () ∧
      (∀ (R : Type) [Recorder lanes R] (recorder kept : R),
        Recorder.keep recorder records = (.ok (), kept) →
        let outcome := start.run inputs outputs recorder batch generator
        let hashed := start.run inputs outputs (HashedTrace.start recorder) batch generator
        plain.Agrees outcome ∧ outcome.recorder = kept ∧
          plain.Agrees hashed ∧ hashed.recorder.inner = kept ∧
          hashed.recorder.accepted = records.length ∧
          hashed.recorder.digest = Digest.ofBytes (Trace.stored records)) ∧
      (plain.Agrees (start.run inputs outputs (TraceList.empty lanes) batch generator) ∧
        (start.run inputs outputs (TraceList.empty lanes) batch
          generator).recorder.records.toList = records) ∧
      (∀ (W : Type) [StoringSink W] (sink : W), StoringSink.contents sink = [] →
        (Recorder.keep (StoredTrace.start lanes sink) records).1 = .ok () →
        let outcome := start.run inputs outputs (StoredTrace.start lanes sink) batch generator
        plain.Agrees outcome ∧
          StoringSink.contents outcome.recorder.sink = Trace.stored records ∧
          outcome.recorder.written = records.length) ∧
      (∀ (path : String) (tree created : FileTree), path ≠ "" → tree.createFile path = .ok created →
        (created.deviceAt path).Holds (Trace.stored records).length →
        let done := start.runToFile inputs outputs (some path) batch generator tree
        plain.Agrees done.outcome ∧
          ∃ file, done.tree.openFile path = .ok file ∧
            file.source.contents = Trace.stored records ∧ file.source.failure = none) ∧
      ∀ (others otherOutputs : Bytes) (path : Option String) (otherBatch : Nat)
          (otherGenerator : Generator) (tree : FileTree), path = none ∨ path = some "" →
        let done := start.runToFile others otherOutputs path otherBatch otherGenerator tree
        (start.run others otherOutputs (none : Option (Untraced lanes)) otherBatch
          otherGenerator).Agrees done.outcome ∧ done.tree = tree := by
  intro start plain
  obtain ⟨gates, loadedSound⟩ := (accepted_of_read loaded).sound
  have sound : start.Sound gates := loadedSound.of_sameProgram ⟨rfl, rfl, rfl, rfl, sized⟩
  have acceptsToo : start.Accepts inputs outputs batch :=
    ⟨accepts.nonempty, accepts.fits, accepts.inputsHeld, accepts.outputsHeld⟩
  let trace := (start.computation gates inputs batch generator).trace
  have counted : trace.length = circuit.header.gateCount.toNat := by
    rw [← loadedSound.gatesCounted]
    exact Gate.length_compute gates
  refine ⟨gates, trace, loadedSound.decoded, counted, ?_, ?_, ?_, ?_, ?_, ?_, ?_⟩
  · intro number gate listed
    exact sound.trace_getElem listed
  · exact sound.run_of_reliable acceptsToo Recorder.reliable_none
  · intro R _ recorder kept keeps
    obtain ⟨agrees, left⟩ := sound.agrees_of_keep acceptsToo keeps
    obtain ⟨last, keepsHashed, inner, accepted, digest⟩ := HashedTrace.keep_start keeps
    obtain ⟨agreesHashed, leftHashed⟩ := sound.agrees_of_keep acceptsToo keepsHashed
    refine ⟨agrees, left, agreesHashed, ?_⟩
    rw [leftHashed]
    exact ⟨inner, accepted, digest⟩
  · have keeps : Recorder.keep (TraceList.empty lanes) trace =
        (.ok (), (Recorder.keep (TraceList.empty lanes) trace).2) :=
      Prod.ext (Recorder.reliable_traceList _ _) rfl
    obtain ⟨agrees, -⟩ := sound.agrees_of_keep acceptsToo keeps
    exact ⟨agrees, sound.records_of_run (agrees.result.trans
      (sound.run_of_reliable acceptsToo Recorder.reliable_none))⟩
  · intro W _ sink empty took
    have keeps : Recorder.keep (StoredTrace.start lanes sink) trace =
        (.ok (), (Recorder.keep (StoredTrace.start lanes sink) trace).2) := Prod.ext took rfl
    obtain ⟨agrees, left⟩ := sound.agrees_of_keep acceptsToo keeps
    refine ⟨agrees, ?_, ?_⟩
    · rw [left, StoredTrace.contents_of_keep keeps, StoredTrace.start, empty, List.nil_append]
    · rw [left, StoredTrace.written_of_keep keeps]
      exact Nat.zero_add _
  · intro path tree created named made room done
    let recorder := StoredTrace.start lanes (FileWriter.start (created.deviceAt path))
    have answered := (StoredTrace.keep_start (created.deviceAt path) trace).1
    have took := answered.trans (Device.answer_eq_ok_iff.mpr room)
    have keeps : Recorder.keep (some recorder) trace =
        (.ok (), some (Recorder.keep recorder trace).2) := by
      rw [Recorder.keep_some, took]
    have ran : done = _ := sound.runToFile_eq acceptsToo named made generator
    rw [ran]
    refine ⟨(sound.agrees_of_keep acceptsToo keeps).1, _, FileTree.openFile_storeBytes made _, ?_,
      ByteSource.failure_ofBytes _⟩
    rw [ByteSource.contents_ofBytes]
    exact room.fitting_eq
  · intro others otherOutputs path otherBatch otherGenerator tree unnamed done
    have nothing : path.filter (· ≠ "") = none := by
      rcases unnamed with rfl | rfl
      · rfl
      · rfl
    have ran : done = ⟨start.run others otherOutputs none otherBatch otherGenerator, tree⟩ := by
      simp only [done]
      rw [runToFile, nothing]
    rw [ran]
    exact ⟨sound.run_none_agrees .., rfl⟩

/-- The only register that the inverter writes, in memory, in a sink behind a digest and in a
file. -/
theorem inverter_is_traced :
    read .sixteen Reservation.standard none (ByteSource.ofBytes inverter) =
        .ok (inverterLoaded .sixteen) ∧
      let start := inverterLoaded .sixteen
      let generator := Generator.ofSeed 1
      let plain := start.run [128] [0] (none : Option (Untraced .sixteen)) 1 generator
      let listed := start.run [128] [0] (TraceList.empty .sixteen) 1 generator
      let hashed := start.run [128] [0]
        (HashedTrace.start (StoredTrace.start .sixteen BoundedBuffer.unbounded)) 1 generator
      let filed := start.runToFile [128] [0] (some "t") 1 generator (FileTree.empty "w")
      plain.result = .ok () ∧ plain.Agrees listed ∧ plain.Agrees hashed ∧
        plain.Agrees filed.outcome ∧ listed.recorder.records.toList = [65534] ∧
        StoringSink.contents hashed.recorder.inner.sink = [254, 255] ∧
        hashed.recorder.digest = Digest.ofBytes [254, 255] ∧
        ∃ file, filed.tree.openFile "t" = .ok file ∧ file.source.contents = [254, 255] := by
  refine ⟨read_inverter .sixteen, ?_⟩
  intro start generator plain listed hashed filed
  have loaded : read .sixteen Reservation.standard none (ByteSource.ofBytes inverter) = .ok start :=
    read_inverter .sixteen
  have accepts : start.Accepts [128] [0] 1 := ⟨by decide, by decide, by decide, by decide⟩
  have sound : start.Sound [⟨.not, 0, 0, 1⟩] := sound_inverterLoaded .sixteen
  have packed : start.packed [128] 1 = #[1, 0] := by decide
  have named : "t" ≠ "" := by decide
  obtain ⟨program, trace, -, -, -, ran, recorded, ⟨listedAgrees, records⟩, stored, files, -⟩ :=
    tracing_is_transparent loaded (rfl : start.ram.size = start.ram.size) accepts generator
  have known : trace = [65534] := by
    rw [← records, sound.records_of_run (listedAgrees.result.trans ran), computation_inverter,
      packed]
    decide
  subst known
  have reliable : Recorder.Reliable (StoredTrace.start .sixteen BoundedBuffer.unbounded) :=
    StoredTrace.reliable ByteSink.reliable_unbounded
  have took := reliable [65534]
  obtain ⟨-, contents, -⟩ := stored BoundedBuffer BoundedBuffer.unbounded rfl took
  obtain ⟨-, kept, hashedAgrees, inner, -, digest⟩ := recorded _ _ _ (Prod.ext took rfl)
  have room : (FileTree.deviceAt ((FileTree.empty "w").insert ["w", "t"] (.file [])) "t").Holds
      (Trace.stored ([65534] : List (Register .sixteen))).length := by
    rw [FileTree.deviceAt_of_unlimited fun _ => rfl]
    trivial
  obtain ⟨filedAgrees, file, opened, holds, -⟩ :=
    files "t" (FileTree.empty "w") _ named (FileTree.createFile_t "w") room
  refine ⟨ran, listedAgrees, hashedAgrees, filedAgrees, records, ?_, digest, file, opened, holds⟩
  rw [inner, ← kept]
  exact contents

end Circuit

end Bitslice
