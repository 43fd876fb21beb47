import Bitslice.Proofs.Refinement

/-!
# What a run tells its recorder

Every accepted run offers its recorder the trace of the computation, record by
record, up to the first one that is refused. How far it comes, and with it what
the run leaves behind, depends on the recorder's answers alone
(`Circuit.Sound.run_eq`).
-/

namespace Bitslice

variable {lanes : Lanes}

namespace Recorder

variable {R : Type} [Recorder lanes R]

/-- The number of records taken before the first that is refused. -/
def taken (recorder : R) : List (Register lanes) → Nat
  | [] => 0
  | register :: later =>
    match record recorder register with
    | (.error _, _) => 0
    | (.ok (), recorder) => taken recorder later + 1

theorem taken_cons_of_ok {recorder next : R} {register : Register lanes}
    (took : record recorder register = (.ok (), next)) (later : List (Register lanes)) :
    taken recorder (register :: later) = taken next later + 1 := by
  rw [taken, took]

theorem taken_cons_of_error {recorder next : R} {register : Register lanes} {cause : IoFailure}
    (refused : record recorder register = (.error cause, next)) (later : List (Register lanes)) :
    taken recorder (register :: later) = 0 := by
  rw [taken, refused]

theorem taken_append {recorder next : R} {earlier : List (Register lanes)}
    (fed : feed recorder earlier = (.ok (), next)) (later : List (Register lanes)) :
    taken recorder (earlier ++ later) = earlier.length + taken next later := by
  induction earlier generalizing recorder with
  | nil =>
    obtain rfl := (Prod.mk.inj fed).2
    rw [List.nil_append, List.length_nil, Nat.zero_add]
  | cons register earlier ih =>
    rcases took : record recorder register with ⟨cause | ⟨⟩, middle⟩
    · rw [feed, took] at fed
      cases fed
    · rw [feed, took] at fed
      rw [List.cons_append, taken_cons_of_ok took, ih fed, List.length_cons, Nat.add_right_comm]

/-- A recorder that takes a whole trace takes all of its records. -/
theorem taken_of_feed {recorder : R} {trace : List (Register lanes)}
    (fed : (feed recorder trace).1 = .ok ()) : taken recorder trace = trace.length := by
  have whole := taken_append (Prod.ext fed rfl : feed recorder trace = (.ok (), _)) []
  rwa [List.append_nil] at whole

/-- A trace is kept whole if every record is taken and then the end is. -/
theorem keep_eq_ok_iff {recorder kept : R} {trace : List (Register lanes)} :
    keep recorder trace = (.ok (), kept) ↔
      ∃ fed, feed recorder trace = (.ok (), fed) ∧ finish fed = (.ok (), kept) := by
  unfold keep
  split
  · next cause next stopped =>
    constructor
    · intro kept
      cases (Prod.mk.inj kept).1
    · rintro ⟨fed, complete, -⟩
      rw [stopped] at complete
      cases (Prod.mk.inj complete).1
  · next next complete =>
    constructor
    · intro finished
      exact ⟨next, complete, finished⟩
    · rintro ⟨fed, same, finished⟩
      rw [complete] at same
      obtain rfl := (Prod.mk.inj same).2
      exact finished

/-- A recorder that is there answers to a record as it does by itself. -/
theorem record_some (recorder : R) (register : Register lanes) :
    record (some recorder) register =
      ((record recorder register).1, some (record recorder register).2) :=
  rfl

theorem feed_some (recorder : R) (trace : List (Register lanes)) :
    feed (some recorder) trace =
      ((feed recorder trace).1, some (feed recorder trace).2) := by
  induction trace generalizing recorder with
  | nil => rfl
  | cons register later ih =>
    have step := record_some recorder register
    rcases took : record recorder register with ⟨cause | ⟨⟩, next⟩
    · rw [took] at step
      rw [feed, step, feed, took]
    · rw [took] at step
      rw [feed, step, feed, took]
      exact ih next

/-- A recorder that is there is told what it would be told by itself. -/
theorem keep_some (recorder : R) (trace : List (Register lanes)) :
    keep (some recorder) trace = ((keep recorder trace).1, some (keep recorder trace).2) := by
  rw [keep, feed_some, keep]
  rcases feed recorder trace with ⟨cause | ⟨⟩, next⟩
  · rfl
  · rfl

/-- Whether a recorder is told directly or as one that may be missing makes no difference. -/
theorem Reliable.some {recorder : R} (reliable : Reliable recorder) :
    Reliable (Option.some recorder) := by
  intro trace
  rw [keep_some]
  exact reliable trace

end Recorder

/-- The computation that a recorder lets happen: that of all gates, or of those up to the one
whose record is refused, that one included. -/
def Gate.computeFor {R : Type} [Recorder lanes R] (recorder : R) (ram : Ram lanes)
    (generator : Generator) (gates : List Gate) : Computation lanes :=
  compute ram generator
    (gates.take (Recorder.taken recorder (compute ram generator gates).trace + 1))

namespace Circuit

section Gates

variable {R : Type} [Recorder lanes R] {ram : Ram lanes}

/-- Applying gates inside the memory is computing them for the recorder, which is offered the
trace of all. The induction is on the gates; the recorder changes with every record. -/
theorem applyGates_eq {gates : List Gate} (inside : ∀ gate ∈ gates, gate.Inside ram.size)
    (recorder : R) (generator : Generator) :
    applyGates ram recorder generator (gates.map .ok) =
      ((Recorder.keep recorder (Gate.compute ram generator gates).trace).1.mapError .trace,
        ⟨(Gate.computeFor recorder ram generator gates).ram,
          (Recorder.keep recorder (Gate.compute ram generator gates).trace).2,
          (Gate.computeFor recorder ram generator gates).generator⟩) := by
  unfold Gate.computeFor
  induction gates generalizing ram generator recorder with
  | nil =>
    rw [List.map_nil, applyGates, Gate.compute]
    simp only [Recorder.keep_nil]
    rcases Recorder.finish recorder with ⟨cause | ⟨⟩, next⟩
    · rfl
    · rfl
  | cons gate gates ih =>
    have evaluated : gate.evaluate ram generator = .ok (gate.value ram generator) :=
      Gate.evaluate_eq_ok (inside gate (.head _))
    rw [List.map_cons, applyGates, evaluated, Gate.compute]
    simp only
    rcases took : Recorder.record recorder (gate.value ram generator).1 with ⟨cause | ⟨⟩, next⟩
    · rw [Recorder.keep_cons_of_error took, Recorder.taken_cons_of_error took]
      rfl
    · have laterInside : ∀ later ∈ gates, later.Inside
          (ram.write gate.destination (gate.value ram generator).1).size := by
        intro later member
        rw [Ram.size_write]
        exact inside later (.tail _ member)
      rw [Recorder.keep_cons_of_ok took, Recorder.taken_cons_of_ok took]
      exact ih laterInside next _

end Gates

section Run

variable {R : Type} [Recorder lanes R] {circuit : Circuit lanes} {gates : List Gate}
  {inputs outputs : Bytes} {batch : Nat} {generator : Generator}

/-- An accepted run, whatever its recorder answers. -/
theorem Sound.run_eq (sound : circuit.Sound gates) (accepts : circuit.Accepts inputs outputs batch)
    (recorder : R) :
    circuit.run inputs outputs recorder batch generator =
      (let kept := Recorder.keep recorder (circuit.computation gates inputs batch generator).trace
      let executed := Gate.computeFor recorder (circuit.packed inputs batch) generator gates
      ⟨kept.1.mapError .trace, { circuit with ram := executed.ram },
        match kept.1 with
        | .ok () => executed.ram.unpack circuit.outputs outputs circuit.header.outputBytes batch
        | .error _ => outputs,
        kept.2, executed.generator⟩) := by
  have applied := applyGates_eq (sound.gates_inside_packed inputs batch) recorder generator
  rw [run, checkArguments_eq_ok_iff.mpr accepts, sound.decoded, ← packed]
  simp only [applied, computation]
  rcases (Recorder.keep recorder
    (Gate.compute (circuit.packed inputs batch) generator gates).trace).1 with cause | ⟨⟩
  · rfl
  · rfl

/-- An accepted run succeeds if its recorder never fails. -/
theorem Sound.run_of_reliable (sound : circuit.Sound gates)
    (accepts : circuit.Accepts inputs outputs batch) {recorder : R}
    (reliable : Recorder.Reliable recorder) :
    (circuit.run inputs outputs recorder batch generator).result = .ok () := by
  rw [sound.run_eq accepts]
  exact congrArg (Except.mapError RunFailure.trace) (reliable _)

/-- A run whose arguments are refused changes nothing. -/
theorem run_of_refused {failure : RunFailure}
    (refused : circuit.checkArguments inputs.length outputs.length batch = .error failure)
    (recorder : R) (generator : Generator) :
    circuit.run inputs outputs recorder batch generator =
      ⟨.error failure, circuit, outputs, recorder, generator⟩ := by
  rw [run, refused]

theorem run_of_not_accepts (refused : ¬circuit.Accepts inputs outputs batch) (recorder : R)
    (generator : Generator) :
    ∃ failure, circuit.checkArguments inputs.length outputs.length batch = .error failure ∧
      circuit.run inputs outputs recorder batch generator =
        ⟨.error failure, circuit, outputs, recorder, generator⟩ := by
  rcases checked : circuit.checkArguments inputs.length outputs.length batch with failure | ⟨⟩
  · exact ⟨failure, rfl, run_of_refused checked recorder generator⟩
  · exact absurd (checkArguments_eq_ok_iff.mp checked) refused

/-- A run that succeeds was accepted, and its recorder has kept the whole trace. -/
theorem Sound.keep_of_run (sound : circuit.Sound gates) {recorder : R}
    (succeeded : (circuit.run inputs outputs recorder batch generator).result = .ok ()) :
    circuit.Accepts inputs outputs batch ∧
      Recorder.keep recorder (circuit.computation gates inputs batch generator).trace =
        (.ok (), (circuit.run inputs outputs recorder batch generator).recorder) := by
  by_cases accepts : circuit.Accepts inputs outputs batch
  · refine ⟨accepts, ?_⟩
    rw [sound.run_eq accepts] at succeeded ⊢
    simp only at succeeded ⊢
    rcases kept : Recorder.keep recorder
      (circuit.computation gates inputs batch generator).trace with ⟨cause | ⟨⟩, next⟩
    · rw [kept] at succeeded
      cases succeeded
    · rfl
  · obtain ⟨failure, -, ran⟩ := run_of_not_accepts accepts recorder generator
    rw [ran] at succeeded
    cases succeeded

/-- A run that succeeds leaves the memory of the computation. -/
theorem Sound.ram_of_run (sound : circuit.Sound gates) {recorder : R}
    (succeeded : (circuit.run inputs outputs recorder batch generator).result = .ok ()) :
    (circuit.run inputs outputs recorder batch generator).circuit.ram =
      (circuit.computation gates inputs batch generator).ram := by
  obtain ⟨accepts, keeps⟩ := sound.keep_of_run succeeded
  rw [sound.run_of_keep accepts keeps]

/-- A run that succeeds and keeps its trace in memory has kept that of the computation. -/
theorem Sound.records_of_run (sound : circuit.Sound gates)
    (succeeded : (circuit.run inputs outputs (TraceList.empty lanes) batch generator).result =
      .ok ()) :
    (circuit.run inputs outputs (TraceList.empty lanes) batch generator).recorder.records.toList =
      (circuit.computation gates inputs batch generator).trace := by
  obtain ⟨-, keeps⟩ := sound.keep_of_run succeeded
  rw [Recorder.keep, Recorder.feed_traceList] at keeps
  rw [← (Prod.mk.inj keeps).2]
  simp [TraceList.empty]

end Run

/-- The inverter writes a single register. -/
theorem computation_inverter (lanes : Lanes) (inputs : Bytes) (batch : Nat)
    (generator : Generator) :
    let packed := (inverterLoaded lanes).packed inputs batch
    (inverterLoaded lanes).computation [⟨.not, 0, 0, 1⟩] inputs batch generator =
      ⟨[~~~packed.cell 0], packed.write 1 (~~~packed.cell 0), generator⟩ :=
  rfl

end Circuit

end Bitslice
