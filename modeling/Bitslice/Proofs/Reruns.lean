import Bitslice.Proofs.Sessions
import Bitslice.Proofs.StoredTraces

/-!
# Runs do not remember earlier runs

An accepted run starts from a cleared memory, so it is the same run whatever
was called before (`Circuit.SameProgram.run_eq`). It reads the rows of its batch
and the answers of its recorder, and nothing else decides what it leaves
behind. A refused call and a run that is stopped are another matter: the first
leaves the memory, and both leave the output buffer as they were.
-/

namespace Bitslice

variable {lanes : Lanes}

namespace Recorder

variable {R S : Type} [Recorder lanes R] [Recorder lanes S] {left : R} {right : S}

/-- Recorders that answer alike, whatever they are told. -/
structure Alike (left : R) (right : S) : Prop where
  fed : ∀ trace : List (Register lanes), (feed left trace).1 = (feed right trace).1
  kept : ∀ trace : List (Register lanes), (keep left trace).1 = (keep right trace).1

theorem Alike.refl (recorder : R) : Alike recorder recorder :=
  ⟨fun _ => rfl, fun _ => rfl⟩

theorem feed_singleton (recorder : R) (register : Register lanes) :
    (feed recorder [register]).1 = (record recorder register).1 := by
  rw [feed]
  rcases record recorder register with ⟨cause | ⟨⟩, next⟩
  · rfl
  · rfl

theorem feed_cons_of_ok {recorder next : R} {register : Register lanes}
    (took : record recorder register = (.ok (), next)) (later : List (Register lanes)) :
    feed recorder (register :: later) = feed next later := by
  rw [feed, took]

/-- Recorders that are alike are still so after a record that both take. -/
theorem Alike.next (alike : Alike left right) {leftNext : R} {rightNext : S}
    {register : Register lanes} (leftTook : record left register = (.ok (), leftNext))
    (rightTook : record right register = (.ok (), rightNext)) : Alike leftNext rightNext := by
  constructor
  · intro trace
    have same := alike.fed (register :: trace)
    rwa [feed_cons_of_ok leftTook, feed_cons_of_ok rightTook] at same
  · intro trace
    have same := alike.kept (register :: trace)
    rwa [keep_cons_of_ok leftTook, keep_cons_of_ok rightTook] at same

/-- Recorders that are alike refuse the same record first. -/
theorem Alike.taken_eq (alike : Alike left right) (trace : List (Register lanes)) :
    taken left trace = taken right trace := by
  induction trace generalizing left right with
  | nil => rfl
  | cons register later ih =>
    have answers := alike.fed [register]
    rw [feed_singleton, feed_singleton] at answers
    rcases leftTook : record left register with ⟨cause | ⟨⟩, leftNext⟩
    · rw [leftTook] at answers
      have rightTook : record right register = (.error cause, (record right register).2) :=
        Prod.ext answers.symm rfl
      rw [taken_cons_of_error leftTook, taken_cons_of_error rightTook]
    · rw [leftTook] at answers
      have rightTook : record right register = (.ok (), (record right register).2) :=
        Prod.ext answers.symm rfl
      rw [taken_cons_of_ok leftTook, taken_cons_of_ok rightTook, ih (alike.next leftTook rightTook)]

end Recorder

namespace Circuit

variable {circuit later : Circuit lanes} {gates : List Gate} {batch : Nat} {generator : Generator}

theorem SameProgram.checkArguments_eq (same : SameProgram circuit later) :
    later.checkArguments = circuit.checkArguments := by
  ext1 inputLength
  unfold checkArguments
  rw [same.header]

/-- A run that fails leaves the output buffer as it was. -/
theorem outputs_of_run_error {R : Type} [Recorder lanes R] {inputs outputs : Bytes} {recorder : R}
    {failure : RunFailure}
    (failed : (circuit.run inputs outputs recorder batch generator).result = .error failure) :
    (circuit.run inputs outputs recorder batch generator).outputs = outputs := by
  unfold run at failed ⊢
  split
  · rfl
  · next accepted =>
    rw [accepted] at failed
    simp only at failed ⊢
    split
    · rfl
    · next progress applied =>
      rw [applied] at failed
      cases failed

/-- An accepted run is the same run on a circuit with any other memory of the same size. -/
theorem SameProgram.run_eq (same : SameProgram circuit later) {R : Type} [Recorder lanes R]
    {inputs outputs : Bytes} (accepts : circuit.Accepts inputs outputs batch) (recorder : R)
    (generator : Generator) :
    later.run inputs outputs recorder batch generator =
      circuit.run inputs outputs recorder batch generator := by
  obtain ⟨header, wires, results, stream, ram⟩ := later
  obtain ⟨rfl, rfl, rfl, rfl, cells⟩ := same
  have cleared : ram.cleared = circuit.ram.cleared := congrArg (Ram.zeros lanes) cells
  have acceptsToo : Accepts { circuit with ram := ram } inputs outputs batch :=
    ⟨accepts.nonempty, accepts.fits, accepts.inputsHeld, accepts.outputsHeld⟩
  rw [run, run, checkArguments_eq_ok_iff.mpr accepts, checkArguments_eq_ok_iff.mpr acceptsToo]
  simp only [cleared]
  rfl

section Two

variable {R S : Type} [Recorder lanes R] [Recorder lanes S] {leftInputs rightInputs : Bytes}
  {leftOutputs rightOutputs : Bytes} {leftRecorder : R} {rightRecorder : S}

/-- The length of a buffer counts only up to what a batch needs. -/
theorem checkArguments_congr {leftLength rightLength leftRoom rightRoom : Nat}
    (sameLength : min (batch * circuit.header.inputBytes) leftLength =
      min (batch * circuit.header.inputBytes) rightLength)
    (sameRoom : min (batch * circuit.header.outputBytes) leftRoom =
      min (batch * circuit.header.outputBytes) rightRoom) :
    circuit.checkArguments leftLength leftRoom batch =
      circuit.checkArguments rightLength rightRoom batch := by
  unfold checkArguments
  simp only
  by_cases width : batch = 0 ∨ lanes.count < batch
  · rw [if_pos width, if_pos width]
  · rw [if_neg width, if_neg width]
    by_cases short : leftLength < batch * circuit.header.inputBytes
    · obtain rfl : leftLength = rightLength := by omega
      rw [if_pos short, if_pos short]
    · have shortToo : ¬rightLength < batch * circuit.header.inputBytes := by omega
      rw [if_neg short, if_neg shortToo]
      by_cases narrow : leftRoom < batch * circuit.header.outputBytes
      · obtain rfl : leftRoom = rightRoom := by omega
        rw [if_pos narrow]
      · have narrowToo : ¬rightRoom < batch * circuit.header.outputBytes := by omega
        rw [if_neg narrow, if_neg narrowToo]

/-- What two runs have in common whose requests differ only where it must not matter. -/
structure RunAlike (circuit : Circuit lanes) (batch : Nat) (leftRecorder : R) (rightRecorder : S)
    (first : Outcome lanes R) (second : Outcome lanes S) : Prop where
  result : first.result = second.result
  circuits : first.circuit = second.circuit
  generator : first.generator = second.generator
  told : ∃ trace, first.recorder = (Recorder.keep leftRecorder trace).2 ∧
    second.recorder = (Recorder.keep rightRecorder trace).2
  outputs : first.result = .ok () → first.outputs.take (batch * circuit.header.outputBytes) =
    second.outputs.take (batch * circuit.header.outputBytes)

/-- Accepted runs on the same rows, with recorders that are alike. -/
theorem Sound.run_alike (sound : circuit.Sound gates)
    (accepts : circuit.Accepts leftInputs leftOutputs batch)
    (acceptsToo : circuit.Accepts rightInputs rightOutputs batch)
    (sameInputs : leftInputs.take (batch * circuit.header.inputBytes) =
      rightInputs.take (batch * circuit.header.inputBytes))
    (alike : Recorder.Alike leftRecorder rightRecorder) (generator : Generator) :
    circuit.RunAlike batch leftRecorder rightRecorder
      (circuit.run leftInputs leftOutputs leftRecorder batch generator)
      (circuit.run rightInputs rightOutputs rightRecorder batch generator) := by
  have packed : circuit.packed rightInputs batch = circuit.packed leftInputs batch := by
    rw [Circuit.packed, Circuit.packed, ← Ram.pack_take, ← sameInputs, Ram.pack_take]
  have executed : Gate.computeFor rightRecorder (circuit.packed leftInputs batch) generator gates =
      Gate.computeFor leftRecorder (circuit.packed leftInputs batch) generator gates := by
    rw [Gate.computeFor, Gate.computeFor, alike.taken_eq]
  have computed : circuit.computation gates rightInputs batch generator =
      circuit.computation gates leftInputs batch generator := by
    rw [computation, computation, packed]
  have answers := alike.kept (circuit.computation gates leftInputs batch generator).trace
  rw [sound.run_eq accepts, sound.run_eq acceptsToo, computed, packed, executed]
  refine ⟨congrArg (Except.mapError RunFailure.trace) answers, rfl, rfl, ⟨_, rfl, rfl⟩, ?_⟩
  intro succeeded
  simp only at succeeded ⊢
  rw [← answers]
  rcases kept : (Recorder.keep leftRecorder
    (circuit.computation gates leftInputs batch generator).trace).1 with cause | ⟨⟩
  · rw [kept] at succeeded
    cases succeeded
  · rw [Ram.take_unpack _ accepts.outputsHeld, Ram.take_unpack _ acceptsToo.outputsHeld]

/-- Refused arguments are refused alike after any other session, and nothing is changed. -/
theorem SameProgram.refuse_alike {left right : Circuit lanes} (leftSame : SameProgram circuit left)
    (rightSame : SameProgram circuit right)
    (checked : circuit.checkArguments leftInputs.length leftOutputs.length batch =
      circuit.checkArguments rightInputs.length rightOutputs.length batch)
    (refuses : ¬circuit.Accepts leftInputs leftOutputs batch) (leftRecorder : R)
    (rightRecorder : S) (generator : Generator) :
    ∃ failure,
      left.run leftInputs leftOutputs leftRecorder batch generator =
          ⟨.error failure, left, leftOutputs, leftRecorder, generator⟩ ∧
        right.run rightInputs rightOutputs rightRecorder batch generator =
          ⟨.error failure, right, rightOutputs, rightRecorder, generator⟩ := by
  have leftRefuses : ¬left.Accepts leftInputs leftOutputs batch := by
    rwa [← checkArguments_eq_ok_iff, leftSame.checkArguments_eq, checkArguments_eq_ok_iff]
  have rightRefuses : ¬right.Accepts rightInputs rightOutputs batch := by
    rwa [← checkArguments_eq_ok_iff, rightSame.checkArguments_eq, ← checked,
      checkArguments_eq_ok_iff]
  obtain ⟨failure, leftFailed, leftRan⟩ := run_of_not_accepts leftRefuses leftRecorder generator
  obtain ⟨other, rightFailed, rightRan⟩ := run_of_not_accepts rightRefuses rightRecorder generator
  rw [leftSame.checkArguments_eq, checked, ← rightSame.checkArguments_eq, rightFailed] at leftFailed
  obtain rfl := Except.error.inj leftFailed
  exact ⟨_, leftRan, rightRan⟩

end Two

/-- Runs do not remember earlier runs. After any two sessions, calls on the same rows with recorders
that are alike have the same result and draw the same. If the arguments are accepted they also leave
the same memory and have told their recorders the same trace, and successful ones leave the same
output rows, whatever the output buffers held. Refused arguments change nothing, and a run that
fails leaves the output buffer as it was. With a generator that was seeded again, an accepted run
is that of the circuit as it was loaded. -/
theorem runs_do_not_remember {reservation : Reservation} {length : Option UInt64}
    {source : ByteSource} (loaded : read lanes reservation length source = .ok circuit)
    {left right : Circuit lanes} (leftReached : circuit.Reaches left)
    (rightReached : circuit.Reaches right)
    {leftInputs rightInputs leftOutputs rightOutputs : Bytes}
    (sameInputs : leftInputs.take (batch * circuit.header.inputBytes) =
      rightInputs.take (batch * circuit.header.inputBytes))
    (sameRoom : min (batch * circuit.header.outputBytes) leftOutputs.length =
      min (batch * circuit.header.outputBytes) rightOutputs.length)
    {R S : Type} [Recorder lanes R] [Recorder lanes S] {leftRecorder : R} {rightRecorder : S}
    (alike : Recorder.Alike leftRecorder rightRecorder) (generator : Generator) :
    let first := left.run leftInputs leftOutputs leftRecorder batch generator
    let second := right.run rightInputs rightOutputs rightRecorder batch generator
    (first.result = second.result ∧ first.generator = second.generator) ∧
      (circuit.Accepts leftInputs leftOutputs batch →
        circuit.RunAlike batch leftRecorder rightRecorder first second) ∧
      (¬circuit.Accepts leftInputs leftOutputs batch → ∃ failure,
        first = ⟨.error failure, left, leftOutputs, leftRecorder, generator⟩ ∧
          second = ⟨.error failure, right, rightOutputs, rightRecorder, generator⟩) ∧
      (∀ failure, first.result = .error failure →
        first.outputs = leftOutputs ∧ second.outputs = rightOutputs) ∧
      ∀ seed, circuit.Accepts leftInputs leftOutputs batch →
        left.run leftInputs leftOutputs leftRecorder batch (Generator.ofSeed seed) =
          circuit.run leftInputs leftOutputs leftRecorder batch (Generator.ofSeed seed) := by
  intro first second
  obtain ⟨gates, sound⟩ := (accepted_of_read loaded).sound
  have leftSame := sound.sameProgram_of_reaches leftReached
  have rightSame := sound.sameProgram_of_reaches rightReached
  have sameLength : min (batch * circuit.header.inputBytes) leftInputs.length =
      min (batch * circuit.header.inputBytes) rightInputs.length := by
    rw [← List.length_take, ← List.length_take, sameInputs]
  have checked := checkArguments_congr sameLength sameRoom
  have accepted : circuit.Accepts leftInputs leftOutputs batch →
      circuit.RunAlike batch leftRecorder rightRecorder first second := by
    intro accepts
    have acceptsToo : circuit.Accepts rightInputs rightOutputs batch := by
      rw [← checkArguments_eq_ok_iff, ← checked]
      exact checkArguments_eq_ok_iff.mpr accepts
    have runs := sound.run_alike accepts acceptsToo sameInputs alike generator
    rwa [← leftSame.run_eq accepts, ← rightSame.run_eq acceptsToo] at runs
  have refused : ¬circuit.Accepts leftInputs leftOutputs batch → ∃ failure,
      first = ⟨.error failure, left, leftOutputs, leftRecorder, generator⟩ ∧
        second = ⟨.error failure, right, rightOutputs, rightRecorder, generator⟩ :=
    fun refuses => leftSame.refuse_alike rightSame checked refuses leftRecorder rightRecorder
      generator
  have together : first.result = second.result ∧ first.generator = second.generator := by
    by_cases accepts : circuit.Accepts leftInputs leftOutputs batch
    · exact ⟨(accepted accepts).result, (accepted accepts).generator⟩
    · obtain ⟨failure, leftRan, rightRan⟩ := refused accepts
      rw [leftRan, rightRan]
      exact ⟨rfl, rfl⟩
  refine ⟨together, accepted, refused, ?_, ?_⟩
  · intro failure failed
    exact ⟨outputs_of_run_error failed, outputs_of_run_error (together.1.symm.trans failed)⟩
  · intro seed accepts
    exact leftSame.run_eq accepts leftRecorder (Generator.ofSeed seed)

/-- A run of the inverter on a circuit that has been used, at first in a run that was stopped since
its trace file had no room, and one on the circuit as it was loaded. -/
theorem inverter_runs_again :
    read .eight Reservation.standard none (ByteSource.ofBytes inverter) =
        .ok (inverterLoaded .eight) ∧
      let fresh := inverterLoaded .eight
      let full := (FileTree.empty "w").standingOn (.limited 0 (.system .noSpace))
      let stopped := (Call.runToFile [64] [0] (some "t") 1 (Generator.ofSeed 4) full).perform fresh
      let used := ((Call.run [0] [0] (TraceList.empty .eight) 1 (Generator.ofSeed 4)).perform
        stopped.2).2
      let first := used.run [128, 5] [170] (TraceList.empty .eight) 1 (Generator.ofSeed 1)
      let second := fresh.run [128] [85, 6] (TraceList.empty .eight) 1 (Generator.ofSeed 1)
      stopped.1 = some (.trace (.system .noSpace)) ∧ first.result = .ok () ∧
        first.circuit = second.circuit ∧ first.recorder = second.recorder ∧
        first.outputs.take 1 = second.outputs.take 1 := by
  refine ⟨read_inverter .eight, ?_⟩
  intro fresh full stopped used first second
  have accepts : fresh.Accepts [128, 5] [170] 1 := ⟨by decide, by decide, by decide, by decide⟩
  have sound : fresh.Sound _ := sound_inverterLoaded .eight
  have reached : fresh.Reaches used := .step (.step .refl _) _
  have acceptsToo : fresh.Accepts [64] [0] 1 := ⟨by decide, by decide, by decide, by decide⟩
  have named : "t" ≠ "" := by decide
  have aborted := sound.runToFile_standingOn_result acceptsToo named (FileTree.createFile_t "w")
    (Generator.ofSeed 4) (.limited 0 (.system .noSpace))
  have sameInputs : ([128, 5] : Bytes).take (1 * fresh.header.inputBytes) =
      ([128] : Bytes).take (1 * fresh.header.inputBytes) := by decide
  have sameRoom : min (1 * fresh.header.outputBytes) ([170] : Bytes).length =
      min (1 * fresh.header.outputBytes) ([85, 6] : Bytes).length := by decide
  obtain ⟨-, alike, -, -, -⟩ := runs_do_not_remember (read_inverter .eight) reached .refl
    sameInputs sameRoom (Recorder.Alike.refl (TraceList.empty .eight)) (Generator.ofSeed 1)
  have runs := alike accepts
  obtain ⟨trace, firstTold, secondTold⟩ := runs.told
  have succeeded : first.result = .ok () :=
    runs.result.trans (sound.run_of_reliable ⟨by decide, by decide, by decide, by decide⟩
      (Recorder.reliable_traceList _))
  exact ⟨RunFailure.ofResult_eq_some_iff.mpr aborted, succeeded, runs.circuits,
    firstTold.trans secondTold.symm, runs.outputs succeeded⟩

/-- Runs of the inverter that are stopped leave different output buffers, and refused calls leave
different memories: neither touches what an earlier call left there. -/
theorem inverter_stopped_and_refused :
    let fresh := inverterLoaded .eight
    let full : StoredTrace .eight BoundedBuffer := StoredTrace.start .eight ⟨#[], some 0, false⟩
    let generator := Generator.ofSeed 1
    let used := ((Call.run [128] [0] (TraceList.empty .eight) 1 generator).perform fresh).2
    read .eight Reservation.standard none (ByteSource.ofBytes inverter) = .ok fresh ∧
      fresh.Reaches used ∧
      (let first := fresh.run [128] [170] full 1 generator
        let second := fresh.run [128] [85] full 1 generator
        first.result = second.result ∧ first.outputs.take 1 ≠ second.outputs.take 1) ∧
      let first := fresh.run [128] [0] full 0 generator
      let second := used.run [128] [0] full 0 generator
      first.result = second.result ∧ first.circuit.ram ≠ second.circuit.ram := by
  intro fresh full generator used
  have sound : fresh.Sound _ := sound_inverterLoaded .eight
  have room : 1 * fresh.header.outputBytes ≤ 1 := by decide
  have accepts : ∀ byte, fresh.Accepts [128] [byte] 1 :=
    fun _ => ⟨by decide, by decide, by decide, room⟩
  have stopped : ∀ byte, (fresh.run [128] [byte] full 1 generator).result =
      .error (.trace (.device .other "disk full")) := by
    intro byte
    rw [sound.run_eq (accepts byte)]
    rfl
  have left : used.ram = #[1, 254] := by
    have packed : fresh.packed [128] 1 = #[1, 0] := by decide
    have succeeded : (fresh.run [128] [0] (TraceList.empty .eight) 1 generator).result = .ok () :=
      sound.run_of_reliable (accepts 0) (Recorder.reliable_traceList _)
    have computed : used.ram = (fresh.computation [⟨.not, 0, 0, 1⟩] [128] 1 generator).ram :=
      sound.ram_of_run succeeded
    rw [computed, computation_inverter, packed]
    decide
  refine ⟨read_inverter .eight, .step .refl _, ⟨?_, ?_⟩, rfl, ?_⟩
  · exact (stopped 170).trans (stopped 85).symm
  · rw [outputs_of_run_error (stopped 170), outputs_of_run_error (stopped 85)]
    decide
  · intro same
    exact absurd (same.trans left) (by decide)

end Circuit

end Bitslice
