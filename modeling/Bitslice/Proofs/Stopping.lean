import Bitslice.Proofs.Tracing

/-!
# Where a failing recorder stops a run

A recorder fails a run in one of two ways: it refuses a record
(`Recorder.RefusesAt`), or it takes them all and fails when it learns of the end
(`Recorder.FailsAtEnd`). Either way the run stops at one place. The gate whose
record is refused has written its cell and has drawn, the recorder has not taken
its record, and the outputs are never written (`Circuit.StopsAfter`).
-/

namespace Bitslice

variable {lanes : Lanes}

namespace Recorder

variable {R : Type} [Recorder lanes R]

/-- The recorder takes so many records of a trace and refuses the next one. -/
def RefusesAt (recorder : R) (trace : List (Register lanes)) (number : Nat) (cause : IoFailure)
    (last : R) : Prop :=
  ∃ earlier register later next, trace = earlier ++ register :: later ∧ earlier.length = number ∧
    feed recorder earlier = (.ok (), next) ∧ record next register = (.error cause, last)

/-- The recorder takes every record of a trace and fails at its end. -/
def FailsAtEnd (recorder : R) (trace : List (Register lanes)) (cause : IoFailure) (last : R) :
    Prop :=
  ∃ next, feed recorder trace = (.ok (), next) ∧ finish next = (.error cause, last)

variable {recorder last : R} {trace : List (Register lanes)} {number : Nat} {cause : IoFailure}

/-- Behind records that were taken, a recorder is told the rest. -/
theorem keep_append {next : R} {earlier : List (Register lanes)}
    (fed : feed recorder earlier = (.ok (), next)) (later : List (Register lanes)) :
    keep recorder (earlier ++ later) = keep next later := by
  induction earlier generalizing recorder with
  | nil =>
    obtain rfl := (Prod.mk.inj fed).2
    rfl
  | cons register earlier ih =>
    rcases took : record recorder register with ⟨cause | ⟨⟩, middle⟩
    · rw [feed, took] at fed
      cases fed
    · rw [feed, took] at fed
      rw [List.cons_append, keep_cons_of_ok took, ih fed]

theorem RefusesAt.keep_eq (refuses : RefusesAt recorder trace number cause last) :
    keep recorder trace = (.error cause, last) := by
  obtain ⟨earlier, register, later, next, rfl, -, fed, refused⟩ := refuses
  rw [keep_append fed, keep_cons_of_error refused]

theorem RefusesAt.taken_eq (refuses : RefusesAt recorder trace number cause last) :
    taken recorder trace = number := by
  obtain ⟨earlier, register, later, next, rfl, rfl, fed, refused⟩ := refuses
  rw [taken_append fed, taken_cons_of_error refused, Nat.add_zero]

theorem FailsAtEnd.keep_eq (fails : FailsAtEnd recorder trace cause last) :
    keep recorder trace = (.error cause, last) := by
  obtain ⟨next, fed, failed⟩ := fails
  rw [keep, fed]
  exact failed

theorem FailsAtEnd.taken_eq (fails : FailsAtEnd recorder trace cause last) :
    taken recorder trace = trace.length := by
  obtain ⟨next, fed, -⟩ := fails
  exact taken_of_feed (congrArg Prod.fst fed)

/-- A trace that is not kept has a record that is refused, or fails at its end. -/
theorem keep_eq_error_iff :
    keep recorder trace = (.error cause, last) ↔
      (∃ number, RefusesAt recorder trace number cause last) ∨
        FailsAtEnd recorder trace cause last := by
  constructor
  · intro kept
    induction trace generalizing recorder with
    | nil => exact .inr ⟨recorder, rfl, kept⟩
    | cons register later ih =>
      rcases took : record recorder register with ⟨failure | ⟨⟩, next⟩
      · rw [keep_cons_of_error took] at kept
        obtain ⟨rfl, rfl⟩ := Prod.mk.inj kept |>.imp Except.error.inj id
        exact .inl ⟨0, [], register, later, recorder, rfl, rfl, rfl, took⟩
      · rw [keep_cons_of_ok took] at kept
        rcases ih kept with ⟨number, earlier, other, rest, middle, rfl, -, fed, refused⟩ |
          ⟨middle, fed, failed⟩
        · refine .inl ⟨_, register :: earlier, other, rest, middle, rfl, rfl, ?_, refused⟩
          rw [feed, took]
          exact fed
        · refine .inr ⟨middle, ?_, failed⟩
          rw [feed, took]
          exact fed
  · rintro (⟨number, refuses⟩ | fails)
    · exact refuses.keep_eq
    · exact fails.keep_eq

/-- The recorder fails on a trace, at one of its records or at its end. -/
def Fails (recorder : R) (trace : List (Register lanes)) (cause : IoFailure) : Prop :=
  ∃ last, (∃ number, RefusesAt recorder trace number cause last) ∨
    FailsAtEnd recorder trace cause last

theorem fails_iff : Fails recorder trace cause ↔ (keep recorder trace).1 = .error cause := by
  simp only [Fails, ← keep_eq_error_iff]
  exact ⟨fun ⟨_, kept⟩ => congrArg Prod.fst kept, fun kept => ⟨_, Prod.ext kept rfl⟩⟩

end Recorder

namespace Circuit

/-- The run has failed because of its recorder when so many gates had been executed. -/
structure StopsAfter {R : Type} (circuit : Circuit lanes) (program : List Gate)
    (inputs outputs : Bytes) (batch : Nat) (generator : Generator) (executed : Nat)
    (cause : IoFailure) (last : R) (outcome : Outcome lanes R) : Prop where
  result : outcome.result = .error (.trace cause)
  circuit : outcome.circuit =
    { circuit with ram := (circuit.progressAt inputs batch generator executed).ram }
  generator : outcome.generator = generator.after lanes (Gate.draws (program.take executed))
  recorder : outcome.recorder = last
  outputs : outcome.outputs = outputs

section Sound

variable {R : Type} [Recorder lanes R] {circuit : Circuit lanes} {gates : List Gate}
  {inputs outputs : Bytes} {batch : Nat} {generator : Generator} {recorder last : R}
  {number : Nat} {cause : IoFailure}

/-- A run whose recorder does not keep the trace stops behind the gate whose record it does not
take. -/
theorem Sound.run_stops (sound : circuit.Sound gates)
    (accepts : circuit.Accepts inputs outputs batch)
    (kept : Recorder.keep recorder (circuit.computation gates inputs batch generator).trace =
      (.error cause, last)) {executed : Nat}
    (reached : gates.take (Recorder.taken recorder
      (circuit.computation gates inputs batch generator).trace + 1) = gates.take executed) :
    circuit.StopsAfter gates inputs outputs batch generator executed cause last
      (circuit.run inputs outputs recorder batch generator) := by
  have computed : Gate.computeFor recorder (circuit.packed inputs batch) generator gates =
      Gate.compute (circuit.packed inputs batch) generator (gates.take executed) := by
    rw [← reached]
    rfl
  rw [sound.run_eq accepts, kept, computed]
  refine ⟨rfl, ?_, Gate.generator_compute _, rfl, rfl⟩
  rw [sound.progressAt_eq]

theorem Sound.run_of_refusal (sound : circuit.Sound gates)
    (accepts : circuit.Accepts inputs outputs batch)
    (refuses : Recorder.RefusesAt recorder
      (circuit.computation gates inputs batch generator).trace number cause last) :
    circuit.StopsAfter gates inputs outputs batch generator (number + 1) cause last
      (circuit.run inputs outputs recorder batch generator) := by
  refine sound.run_stops accepts refuses.keep_eq ?_
  rw [refuses.taken_eq]

theorem Sound.run_of_failed_end (sound : circuit.Sound gates)
    (accepts : circuit.Accepts inputs outputs batch)
    (fails : Recorder.FailsAtEnd recorder
      (circuit.computation gates inputs batch generator).trace cause last) :
    circuit.StopsAfter gates inputs outputs batch generator gates.length cause last
      (circuit.run inputs outputs recorder batch generator) := by
  refine sound.run_stops accepts fails.keep_eq ?_
  rw [fails.taken_eq, computation, Gate.length_compute, List.take_length,
    List.take_of_length_le (Nat.le_succ _)]

/-- An accepted run fails only because its recorder does. -/
theorem Sound.keep_of_failed_run (sound : circuit.Sound gates)
    (accepts : circuit.Accepts inputs outputs batch) {failure : RunFailure}
    (failed : (circuit.run inputs outputs recorder batch generator).result = .error failure) :
    ∃ cause, failure = .trace cause ∧
      Recorder.keep recorder (circuit.computation gates inputs batch generator).trace =
        (.error cause, (circuit.run inputs outputs recorder batch generator).recorder) := by
  rw [sound.run_eq accepts] at failed ⊢
  simp only at failed ⊢
  rcases kept : Recorder.keep recorder
    (circuit.computation gates inputs batch generator).trace with ⟨cause | ⟨⟩, next⟩
  · rw [kept] at failed
    exact ⟨cause, (Except.error.inj failed).symm, rfl⟩
  · rw [kept] at failed
    cases failed

end Sound

/-- A failing recorder stops a run at exactly one place. The records of an accepted run are the
registers that its gates write, one after the other. If the recorder refuses one of them, the
memory is that behind the gate that wrote it, and one register has been drawn for each random gate
up to there; the recorder has taken the records before and refused this one. If it takes them all
and fails at the end, all gates have been executed. In both cases the run reports the recorder's
failure, and the program of the circuit and the output buffer are as they were. Nothing else makes
an accepted run fail. -/
theorem failing_recorders_stop_runs {reservation : Reservation} {length : Option UInt64}
    {source : ByteSource} {circuit : Circuit lanes}
    (loaded : read lanes reservation length source = .ok circuit) {earlier : Ram lanes}
    (sized : earlier.size = circuit.ram.size) {inputs outputs : Bytes} {batch : Nat}
    (accepts : circuit.Accepts inputs outputs batch) (generator : Generator) :
    let start : Circuit lanes := { circuit with ram := earlier }
    ∃ (program : List Gate) (records : List (Register lanes)),
      circuit.gates = program.map .ok ∧ records.length = program.length ∧
      start.progressAt inputs batch generator 0 = ⟨start.packed inputs batch, none, generator⟩ ∧
      (∀ number (gate : Gate), program[number]? = some gate →
        let before := start.progressAt inputs batch generator number
        let after := start.progressAt inputs batch generator (number + 1)
        ∃ register, records[number]? = some register ∧
          gate.evaluate before.ram before.generator = .ok (register, after.generator) ∧
          after.ram = before.ram.write gate.destination register) ∧
      ∀ (R : Type) [Recorder lanes R] (recorder : R),
        let outcome := start.run inputs outputs recorder batch generator
        (∀ number cause last, Recorder.RefusesAt recorder records number cause last →
          start.StopsAfter program inputs outputs batch generator (number + 1) cause last
            outcome) ∧
        (∀ cause last, Recorder.FailsAtEnd recorder records cause last →
          start.StopsAfter program inputs outputs batch generator program.length cause last
            outcome) ∧
        ∀ failure, outcome.result = .error failure → ∃ cause, failure = .trace cause ∧
          ((∃ number, Recorder.RefusesAt recorder records number cause outcome.recorder) ∨
            Recorder.FailsAtEnd recorder records cause outcome.recorder) := by
  intro start
  obtain ⟨gates, loadedSound⟩ := (accepted_of_read loaded).sound
  have sound : start.Sound gates := loadedSound.of_sameProgram ⟨rfl, rfl, rfl, rfl, sized⟩
  have acceptsToo : start.Accepts inputs outputs batch :=
    ⟨accepts.nonempty, accepts.fits, accepts.inputsHeld, accepts.outputsHeld⟩
  refine ⟨gates, (start.computation gates inputs batch generator).trace, loadedSound.decoded,
    Gate.length_compute gates, rfl, ?_, ?_⟩
  · intro number gate listed
    obtain ⟨register, recorded, evaluated, written, -⟩ := sound.trace_getElem listed
    exact ⟨register, recorded, evaluated, written⟩
  · intro R _ recorder outcome
    refine ⟨?_, ?_, ?_⟩
    · intro number cause last refuses
      exact sound.run_of_refusal acceptsToo refuses
    · intro cause last fails
      exact sound.run_of_failed_end acceptsToo fails
    · intro failure failed
      obtain ⟨cause, same, kept⟩ := sound.keep_of_failed_run acceptsToo failed
      exact ⟨cause, same, Recorder.keep_eq_error_iff.mp kept⟩

/-- The inverter with a sink that has no room for its record, and with one that cannot be
flushed. -/
theorem inverter_is_stopped :
    read .eight Reservation.standard none (ByteSource.ofBytes inverter) =
        .ok (inverterLoaded .eight) ∧
      let start := inverterLoaded .eight
      let full : BoundedBuffer := ⟨#[], some 0, false⟩
      let stuck : BoundedBuffer := ⟨#[], none, true⟩
      let refused := start.run [128] [170] (StoredTrace.start .eight full) 1 (Generator.ofSeed 1)
      let unfinished := start.run [128] [170] (StoredTrace.start .eight stuck) 1
        (Generator.ofSeed 1)
      (refused.result = .error (.trace (.device .other "disk full")) ∧
        refused.circuit.ram = #[1, 254] ∧ refused.recorder.sink.stored = #[] ∧
        refused.outputs = [170]) ∧
      unfinished.result = .error (.trace (.device .other "flush failed")) ∧
        unfinished.circuit.ram = #[1, 254] ∧ unfinished.recorder.sink.stored = #[254] ∧
        unfinished.outputs = [170] := by
  refine ⟨read_inverter .eight, ?_⟩
  intro start full stuck refused unfinished
  have loaded : read .eight Reservation.standard none (ByteSource.ofBytes inverter) = .ok start :=
    read_inverter .eight
  have accepts : start.Accepts [128] [170] 1 := ⟨by decide, by decide, by decide, by decide⟩
  obtain ⟨program, records, decoded, counted, -, steps, runs⟩ := failing_recorders_stop_runs loaded
    (rfl : start.ram.size = start.ram.size) accepts (Generator.ofSeed 1)
  obtain rfl : program = [⟨.not, 0, 0, 1⟩] :=
    (List.map_inj_right fun _ _ => Except.ok.inj).mp
      (decoded.symm.trans (sound_inverterLoaded .eight).decoded)
  have packed : (start.progressAt [128] 1 (Generator.ofSeed 1) 0).ram = #[1, 0] := by decide
  have left : (start.progressAt [128] 1 (Generator.ofSeed 1) 1).ram = #[1, 254] := by
    rw [(sound_inverterLoaded .eight).progressAt_eq]
    decide
  obtain ⟨only, rfl⟩ := List.length_eq_one_iff.mp counted
  obtain ⟨register, listed, evaluated, -⟩ := steps 0 _ rfl
  obtain rfl := Option.some.inj listed
  have inverted : Gate.evaluate ⟨.not, 0, 0, 1⟩
      (start.progressAt [128] 1 (Generator.ofSeed 1) 0).ram (Generator.ofSeed 1) =
        .ok (only, _) := evaluated
  rw [packed] at inverted
  obtain rfl : 254 = only := congrArg Prod.fst (Except.ok.inj inverted)
  obtain ⟨stops, -, -⟩ := runs _ (StoredTrace.start .eight full)
  obtain ⟨-, stopsAtEnd, -⟩ := runs _ (StoredTrace.start .eight stuck)
  have first := stops 0 (.device .other "disk full") ⟨full, 0⟩ ⟨[], 254, [], _, rfl, rfl, rfl, rfl⟩
  have second := stopsAtEnd (.device .other "flush failed") ⟨⟨#[254], none, true⟩, 1⟩ ⟨_, rfl, rfl⟩
  refine ⟨⟨first.result, ?_, ?_, first.outputs⟩, second.result, ?_, ?_, second.outputs⟩
  · exact (congrArg Circuit.ram first.circuit).trans left
  · exact congrArg (·.sink.stored) first.recorder
  · exact (congrArg Circuit.ram second.circuit).trans left
  · exact congrArg (·.sink.stored) second.recorder

end Circuit

end Bitslice
