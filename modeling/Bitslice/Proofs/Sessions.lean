import Bitslice.Execution.Series
import Bitslice.Proofs.Bounds
import Bitslice.Proofs.Replaying

/-!
# Sessions on a loaded circuit

A session is any sequence of calls with any arguments, whatever their recorders
answer and whatever device their trace files stand on, so a call may also be
stopped half way by its trace. No call changes more than the contents of the memory, so
what loading has checked stays true, and with it no call can meet a bad record
or an address outside the memory.
-/

namespace Bitslice

variable {lanes : Lanes}

namespace RunFailure

/-- A fault in the opcode stream. -/
def OfStream : RunFailure → Prop
  | invalidOpcode _ _ => True
  | truncated _ => True
  | addressOutOfRange _ _ => True
  | decode _ => True
  | _ => False

/-- The failure of a result, if it is one. -/
def ofResult {α : Type} : Except RunFailure α → Option RunFailure
  | .ok _ => none
  | .error failure => some failure

theorem OfStream.status_eq {failure : RunFailure} (fault : failure.OfStream) :
    failure.status = -3 := by
  cases failure with
  | invalidOpcode | truncated | addressOutOfRange | decode => rfl
  | batchWidth | inputTooShort | outputTooShort | traceUnopened | trace => cases fault

theorem ofResult_eq_some_iff {α : Type} {result : Except RunFailure α} {failure : RunFailure} :
    ofResult result = some failure ↔ result = .error failure := by
  cases result <;> simp [ofResult]

end RunFailure

/-- A call on a circuit, with all it is given. -/
inductive Call (lanes : Lanes) : Type 1 where
  | run {R : Type} [Recorder lanes R] (inputs outputs : Bytes) (recorder : R) (batch : Nat)
      (generator : Generator)
  | runToFile (inputs outputs : Bytes) (path : Option String) (batch : Nat) (generator : Generator)
      (tree : FileTree)
  | runSeriesUntraced (instances : List Bytes) (generator : Generator)
  | runSeries {A R : Type} [Recorder lanes R] (instances : List Bytes) (generator : Generator)
      (supply : RecorderSupplier A R) (supplier : A)
  | replay (source : ByteSource)

namespace Call

/-- The failure of the call, if it fails, and the circuit after it. -/
def perform (circuit : Circuit lanes) : Call lanes → Option RunFailure × Circuit lanes
  | run inputs outputs recorder batch generator =>
    let outcome := circuit.run inputs outputs recorder batch generator
    (RunFailure.ofResult outcome.result, outcome.circuit)
  | runToFile inputs outputs path batch generator tree =>
    let done := circuit.runToFile inputs outputs path batch generator tree
    (RunFailure.ofResult done.outcome.result, done.outcome.circuit)
  | runSeriesUntraced instances generator =>
    let outcome := circuit.runSeriesUntraced instances generator
    (RunFailure.ofResult outcome.result, outcome.circuit)
  | runSeries instances generator supply supplier =>
    let outcome := circuit.runSeries instances generator supply supplier
    (RunFailure.ofResult outcome.result, outcome.circuit)
  | replay source => (RunFailure.ofResult (Trace.replay circuit source), circuit)

/-- The call's own supplier of recorders was asked last, and answered with this failure. -/
def Supplies (circuit : Circuit lanes) (failure : RunFailure) : Call lanes → Prop
  | runSeries instances generator supply supplier => ∃ asked batch, supply asked batch =
      (.error failure, (circuit.runSeries instances generator supply supplier).supplier)
  | _ => False

end Call

namespace Circuit

/-- The circuit after some sequence of calls. -/
inductive Reaches (circuit : Circuit lanes) : Circuit lanes → Prop where
  | refl : Reaches circuit circuit
  | step {current : Circuit lanes} (prior : Reaches circuit current) (call : Call lanes) :
      Reaches circuit (call.perform current).2

section Calls

variable {circuit : Circuit lanes} {gates : List Gate} {failure : RunFailure}

theorem status_of_checkArguments {inputLength outputLength batch : Nat}
    (refused : circuit.checkArguments inputLength outputLength batch = .error failure) :
    failure.status = -4 := by
  unfold checkArguments at refused
  simp only at refused
  split at refused
  · obtain rfl := Except.error.inj refused
    rfl
  · split at refused
    · obtain rfl := Except.error.inj refused
      rfl
    · split at refused
      · obtain rfl := Except.error.inj refused
        rfl
      · cases refused

theorem not_ofStream_of_checkArguments {inputLength outputLength batch : Nat}
    (refused : circuit.checkArguments inputLength outputLength batch = .error failure) :
    ¬failure.OfStream := by
  intro fault
  have status := fault.status_eq
  rw [status_of_checkArguments refused] at status
  cases status

section Run

variable {R : Type} [Recorder lanes R]

theorem Sound.run_safe (sound : circuit.Sound gates) (inputs outputs : Bytes) (recorder : R)
    (batch : Nat) (generator : Generator) :
    SameProgram circuit (circuit.run inputs outputs recorder batch generator).circuit ∧
      ∀ failure, (circuit.run inputs outputs recorder batch generator).result = .error failure →
        ¬failure.OfStream := by
  unfold run
  cases checked : circuit.checkArguments inputs.length outputs.length batch with
  | error refusal =>
    refine ⟨.refl circuit, ?_⟩
    rintro failure ⟨⟩
    exact not_ofStream_of_checkArguments checked
  | ok accepted =>
    simp only [sound.decoded]
    rw [← packed]
    cases applied : applyGates (circuit.packed inputs batch) recorder generator
      (gates.map .ok) with
    | mk result progress =>
      obtain ⟨kept, stopped⟩ := applyGates_inside (sound.gates_inside_packed inputs batch) applied
      rw [size_packed] at kept
      rcases stopped with rfl | ⟨cause, rfl⟩
      · refine ⟨⟨rfl, rfl, rfl, rfl, kept⟩, ?_⟩
        intro failure failed
        cases failed
      · refine ⟨⟨rfl, rfl, rfl, rfl, kept⟩, ?_⟩
        rintro failure ⟨⟩
        exact not_false

theorem Sound.runSeriesFrom_safe {A : Type} {supply : RecorderSupplier A R}
    (sound : circuit.Sound gates) (generator : Generator) (supplier : A) (number : Nat)
    (inputBuffer outputBuffer : Bytes) (outputs : Array Bytes) (recorders : Array R)
    (instances : List Bytes) :
    let outcome := runSeriesFrom supply circuit generator supplier number inputBuffer outputBuffer
      outputs recorders instances
    SameProgram circuit outcome.circuit ∧
      ∀ failure, outcome.result = .error failure → failure.OfStream →
        ∃ asked batch, supply asked batch = (.error failure, outcome.supplier) := by
  fun_induction runSeriesFrom supply circuit generator supplier number inputBuffer outputBuffer
      outputs recorders instances with
  | case1 circuit =>
    refine ⟨.refl circuit, ?_⟩
    intro failure failed
    cases failed
  | case2 circuit generator supplier number _ _ _ _ _ _ refusal next supplied =>
    refine ⟨.refl circuit, ?_⟩
    rintro failure ⟨⟩ _
    exact ⟨supplier, number, supplied⟩
  | case3 circuit generator _ _ _ outputBuffer _ _ _ _ group inputBuffer recorder _ _ outcome stop
      stopped =>
    obtain ⟨same, safe⟩ := sound.run_safe inputBuffer outputBuffer recorder group.length generator
    refine ⟨same, ?_⟩
    rintro failure ⟨⟩ ofStream
    exact absurd ofStream (safe stop stopped)
  | case4 circuit generator _ _ _ outputBuffer _ _ _ _ group inputBuffer recorder _ _ outcome _ _
      ih =>
    obtain ⟨same, -⟩ := sound.run_safe inputBuffer outputBuffer recorder group.length generator
    obtain ⟨others, safe⟩ := ih (sound.of_sameProgram same)
    exact ⟨same.trans others, safe⟩

/-- A series answers with a fault of the stream only if its supplier just did. -/
theorem Sound.runSeries_safe {A : Type} (sound : circuit.Sound gates) (instances : List Bytes)
    (generator : Generator) (supply : RecorderSupplier A R) (supplier : A) :
    SameProgram circuit (circuit.runSeries instances generator supply supplier).circuit ∧
      ∀ failure, (circuit.runSeries instances generator supply supplier).result = .error failure →
        failure.OfStream → ∃ asked batch, supply asked batch =
          (.error failure, (circuit.runSeries instances generator supply supplier).supplier) := by
  unfold runSeries
  simp only
  split
  · refine ⟨.refl circuit, ?_⟩
    rintro failure ⟨⟩ ⟨⟩
  · exact sound.runSeriesFrom_safe ..

end Run

theorem Sound.runToFile_safe (sound : circuit.Sound gates) (inputs outputs : Bytes)
    (path : Option String) (batch : Nat) (generator : Generator) (tree : FileTree) :
    SameProgram circuit
        (circuit.runToFile inputs outputs path batch generator tree).outcome.circuit ∧
      ∀ failure, (circuit.runToFile inputs outputs path batch generator tree).outcome.result =
        .error failure → ¬failure.OfStream := by
  unfold runToFile
  split
  · exact sound.run_safe ..
  · split
    · next refusal refused =>
      refine ⟨.refl circuit, ?_⟩
      rintro failure ⟨⟩
      exact not_ofStream_of_checkArguments refused
    · split
      · refine ⟨.refl circuit, ?_⟩
        rintro failure ⟨⟩
        exact not_false
      · exact sound.run_safe ..

end Calls

end Circuit

/-- Replaying well-formed gates can only fail because of the trace. -/
theorem Trace.not_ofStream_of_replayGates {source : ByteSource} {read : Nat} {cells : CellMap lanes}
    {gates : List Gate} {failure : RunFailure}
    (failed : replayGates source read cells (gates.map .ok) = .error failure) :
    ¬failure.OfStream := by
  induction gates generalizing source read cells with
  | nil =>
    rw [List.map_nil, replayGates] at failed
    split at failed
    · cases failed
    · obtain rfl := Except.error.inj failed
      exact not_false
  | cons gate gates ih =>
    rw [List.map_cons, replayGates] at failed
    split at failed
    · obtain rfl := Except.error.inj failed
      exact not_false
    · obtain rfl := Except.error.inj failed
      exact not_false
    · exact ih failed

namespace Circuit

variable {circuit : Circuit lanes} {gates : List Gate}

/-- One call on a sound circuit. -/
theorem Sound.perform_safe (sound : circuit.Sound gates) (call : Call lanes) :
    SameProgram circuit (call.perform circuit).2 ∧
      ∀ failure, (call.perform circuit).1 = some failure → failure.OfStream →
        call.Supplies circuit failure := by
  cases call with
  | run inputs outputs recorder batch generator =>
    obtain ⟨same, safe⟩ := sound.run_safe inputs outputs recorder batch generator
    refine ⟨same, fun failure failed ofStream => ?_⟩
    exact absurd ofStream (safe failure (RunFailure.ofResult_eq_some_iff.mp failed))
  | runToFile inputs outputs path batch generator tree =>
    obtain ⟨same, safe⟩ := sound.runToFile_safe inputs outputs path batch generator tree
    refine ⟨same, fun failure failed ofStream => ?_⟩
    exact absurd ofStream (safe failure (RunFailure.ofResult_eq_some_iff.mp failed))
  | runSeriesUntraced instances generator =>
    obtain ⟨same, safe⟩ := sound.runSeries_safe instances generator
      (fun supplier _ => (.ok (none : Option (Untraced lanes)), supplier)) ()
    refine ⟨same, fun failure failed ofStream => ?_⟩
    obtain ⟨asked, batch, supplied⟩ :=
      safe failure (RunFailure.ofResult_eq_some_iff.mp failed) ofStream
    cases supplied
  | runSeries instances generator supply supplier =>
    obtain ⟨same, safe⟩ := sound.runSeries_safe instances generator supply supplier
    exact ⟨same, fun failure failed => safe failure (RunFailure.ofResult_eq_some_iff.mp failed)⟩
  | replay source =>
    refine ⟨.refl circuit, fun failure failed ofStream => ?_⟩
    have replayed := RunFailure.ofResult_eq_some_iff.mp failed
    rw [Trace.replay, sound.decoded] at replayed
    exact absurd ofStream (Trace.not_ofStream_of_replayGates replayed)

/-- Whatever was called, the program is the same. -/
theorem Sound.sameProgram_of_reaches (sound : circuit.Sound gates) {later : Circuit lanes}
    (reached : circuit.Reaches later) : SameProgram circuit later := by
  induction reached with
  | refl => exact .refl circuit
  | step prior call ih => exact ih.trans ((sound.of_sameProgram ih).perform_safe call).1

/-- A run without a recorder succeeds once its arguments are accepted. -/
theorem Sound.run_unrecorded (sound : circuit.Sound gates) {R : Type} [Recorder lanes R]
    {inputs outputs : Bytes} {batch : Nat} (generator : Generator)
    (accepted : circuit.checkArguments inputs.length outputs.length batch = .ok ()) :
    (circuit.run inputs outputs (none : Option R) batch generator).result = .ok () := by
  have reliable : Recorder.Reliable (none : Option R) := Recorder.reliable_none
  have keeps : Recorder.keep (none : Option R)
      (circuit.computation gates inputs batch generator).trace = (.ok (), _) :=
    Prod.ext (reliable _) rfl
  rw [sound.run_of_keep (checkArguments_eq_ok_iff.mp accepted) keeps]

/-- A loaded circuit cannot go wrong. After any session its program is what was loaded, its memory
has the announced size, no index of a run is outside its buffer, a run without a recorder succeeds
once its arguments are accepted, and no call meets a fault of the stream; a series passes on what
its own supplier answers, whatever that is. And every stream that decodes without an error, while
loading or later, has been read to its last byte. -/
theorem sessions_cannot_go_wrong {reservation : Reservation} {length : Option UInt64}
    {source : ByteSource} (loaded : read lanes reservation length source = .ok circuit) :
    (∀ later, circuit.Reaches later →
      (later.header = circuit.header ∧ later.inputs = circuit.inputs ∧
        later.outputs = circuit.outputs ∧ later.stream = circuit.stream ∧
        later.ram.size = circuit.header.memory.toNat) ∧
      (∀ (call : Call lanes) (failure : RunFailure), (call.perform later).1 = some failure →
        failure.OfStream → call.Supplies later failure) ∧
      (∀ (R : Type) [Recorder lanes R] (inputs outputs : Bytes) (recorder : R) (batch : Nat)
          (generator : Generator),
        later.runChecked inputs outputs recorder batch generator =
          some (later.run inputs outputs recorder batch generator)) ∧
      ∀ (R : Type) [Recorder lanes R] (inputs outputs : Bytes) (batch : Nat)
          (generator : Generator),
        later.checkArguments inputs.length outputs.length batch = .ok () →
        (later.run inputs outputs (none : Option R) batch generator).result = .ok ()) ∧
    ∀ (widths : Widths) (stream : Bytes) (gates : List Gate),
      GateStream.items widths stream = gates.map .ok →
      (∃ last, GateStream.Walk (.start widths stream) gates last) ∧
        ∀ walked last, GateStream.Walk (.start widths stream) walked last →
          last.offset = stream.length := by
  obtain ⟨gates, sound⟩ := (accepted_of_read loaded).sound
  constructor
  · intro later reached
    have same := sound.sameProgram_of_reaches reached
    have soundLater := sound.of_sameProgram same
    refine ⟨⟨same.header, same.inputs, same.outputs, same.stream, ?_⟩, ?_, ?_, ?_⟩
    · exact same.cells.trans sound.cellsCounted
    · exact fun call => (soundLater.perform_safe call).2
    · intro R _ inputs outputs recorder batch generator
      exact soundLater.runChecked_eq inputs outputs recorder batch generator
    · intro R _ inputs outputs batch generator accepted
      exact soundLater.run_unrecorded generator accepted
  · intro widths stream gates decoded
    refine ⟨GateStream.walk_of_items decoded, ?_⟩
    intro walked last walk
    rw [walk.offset_eq rfl]
    exact Nat.zero_add _

/-- A refused call on the inverter, one that is stopped since its trace file has no room, and a run
after them. -/
theorem inverter_session :
    ∃ circuit : Circuit .one,
      read .one Reservation.standard none (ByteSource.ofBytes inverter) = .ok circuit ∧
        let full := (FileTree.empty "w").standingOn (.limited 0 (.system .noSpace))
        let refused : Call .one := .run [0] [0] (TraceList.empty .one) 2 (Generator.ofSeed 1)
        let stopped : Call .one := .runToFile [0] [0] (some "t") 1 (Generator.ofSeed 1) full
        let current := (refused.perform circuit).2
        let later := (stopped.perform current).2
        (refused.perform circuit).1 = some (.batchWidth 2 1) ∧
          (stopped.perform current).1 = some (.trace (.system .noSpace)) ∧
          later.stream = circuit.stream ∧ later.ram.size = 2 ∧
          (later.run [0] [0] (none : Option (Untraced .one)) 1 (Generator.ofSeed 1)).result =
            .ok () := by
  refine ⟨_, read_inverter .one, ?_⟩
  intro full refused stopped current later
  have accepts : (inverterLoaded .one).Accepts [0] [0] 1 :=
    ⟨by decide, by decide, by decide, by decide⟩
  have named : "t" ≠ "" := by decide
  have aborted := (sound_inverterLoaded .one).runToFile_standingOn_result accepts named
    (FileTree.createFile_t "w") (Generator.ofSeed 1) (.limited 0 (.system .noSpace))
  obtain ⟨session, -⟩ := sessions_cannot_go_wrong (read_inverter .one)
  have reached : (inverterLoaded .one).Reaches later := .step (.step .refl refused) stopped
  obtain ⟨⟨header, -, -, stream, cells⟩, -, -, succeeds⟩ := session later reached
  have checked : later.checkArguments 1 1 1 = .ok () := by
    unfold checkArguments
    rw [header]
    rfl
  exact ⟨rfl, RunFailure.ofResult_eq_some_iff.mpr aborted, stream, cells,
    succeeds _ [0] [0] 1 (Generator.ofSeed 1) checked⟩

end Circuit

end Bitslice
