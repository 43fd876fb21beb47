import Bitslice.Proofs.Reruns
import Bitslice.Proofs.Series
import Bitslice.Proofs.Stopping

/-!
# Where a failing series halts

An instance that is too short keeps a whole series from starting. Otherwise the
batches are calls like any other: before each batch, the series has done what
calls on the batches before it would have done (`Circuit.ReachesBatch`),
although its buffers keep old rows. A batch for which the supplier fails is not
run, one whose recorder fails is a run that fails, and either is the last.
-/

namespace Bitslice

variable {lanes : Lanes}

/-- The instances that are left before the batch of the given number. -/
def Lanes.remaining (lanes : Lanes) (instances : List Bytes) (number : Nat) : List Bytes :=
  instances.drop (number * lanes.count)

theorem Lanes.remaining_zero (lanes : Lanes) (instances : List Bytes) :
    lanes.remaining instances 0 = instances := by
  rw [remaining, Nat.zero_mul, List.drop_zero]

theorem Lanes.remaining_succ (lanes : Lanes) (instances : List Bytes) (number : Nat) :
    lanes.remaining instances (number + 1) =
      (lanes.remaining instances number).drop lanes.count := by
  rw [remaining, remaining, List.drop_drop, Nat.succ_mul]

theorem Lanes.remaining_ne_nil_iff (lanes : Lanes) {instances : List Bytes} {number : Nat} :
    lanes.remaining instances number ≠ [] ↔ number < lanes.batches instances.length := by
  have positive := lanes.count_pos
  rw [remaining, Ne, List.drop_eq_nil_iff, batches, Nat.lt_iff_add_one_le,
    Nat.le_div_iff_mul_le positive, Nat.succ_mul]
  omega

namespace RecorderSupplier

variable {A R : Type} (supply : RecorderSupplier A R) (supplier : A)

theorem after_add_one (number batches : Nat) :
    supply.after supplier number (batches + 1) =
      (supply (supply.after supplier number batches) (number + batches)).2 := by
  induction batches generalizing supplier number with
  | zero => rfl
  | succ batches ih =>
    have place : number + 1 + batches = number + (batches + 1) := by omega
    rw [after, ih, place]
    rfl

/-- What the supplier answers for a batch when it has been asked for all batches before. -/
def answer (number : Nat) : Except RunFailure (Option R) :=
  (supply (supply.after supplier 0 number) number).1

/-- For one more batch, the supplier is asked once more. -/
theorem eq_of_answer {number : Nat} {given : Except RunFailure (Option R)}
    (answered : supply.answer supplier number = given) :
    supply (supply.after supplier 0 number) number =
      (given, supply.after supplier 0 (number + 1)) := by
  refine Prod.ext answered ?_
  rw [after_add_one, Nat.zero_add]

end RecorderSupplier

/-- The series has failed, and left the circuit, the generator and the supplier so. -/
structure SeriesOutcome.Halts {A R : Type} (outcome : SeriesOutcome lanes A R)
    (failure : RunFailure) (circuit : Circuit lanes) (generator : Generator) (supplier : A) :
    Prop where
  result : outcome.result = .error failure
  circuit : outcome.circuit = circuit
  generator : outcome.generator = generator
  supplier : outcome.supplier = supplier

namespace Circuit

variable {A R : Type} [Recorder lanes R]

/-- A call of its own on the first batch of some instances. -/
def runFirst {S : Type} [Recorder lanes S] (circuit : Circuit lanes) (instances : List Bytes)
    (recorder : S) (generator : Generator) : Outcome lanes S :=
  let batch := (instances.take lanes.count).length
  circuit.run (circuit.firstRows instances).flatten
    (List.replicate (batch * circuit.header.outputBytes) 0) recorder batch generator

/-- The batches before the given number have been run by calls of their own, one after the other
and each with what the supplier answers, and all have succeeded. -/
inductive ReachesBatch (start : Circuit lanes) (supply : RecorderSupplier A R) (supplier : A)
    (instances : List Bytes) (generator : Generator) : Nat → Circuit lanes → Generator → Prop where
  | first : ReachesBatch start supply supplier instances generator 0 start generator
  | next {number : Nat} {current : Circuit lanes} {drawn : Generator} {recorder : Option R}
      (before : ReachesBatch start supply supplier instances generator number current drawn)
      (inside : number < lanes.batches instances.length)
      (supplied : supply.answer supplier number = .ok recorder)
      (succeeded : (current.runFirst (lanes.remaining instances number) recorder
        drawn).result = .ok ()) :
      ReachesBatch start supply supplier instances generator (number + 1)
        (current.runFirst (lanes.remaining instances number) recorder drawn).circuit
        (current.runFirst (lanes.remaining instances number) recorder drawn).generator

section Batch

variable {circuit : Circuit lanes} {gates : List Gate} {instances : List Bytes}
  {generator : Generator} {buffer outputs : Bytes}
  (prepared : circuit.Prepared gates instances buffer outputs)

include prepared

/-- The rows and the outputs of earlier batches in the buffers make no difference to a batch. -/
theorem Prepared.runFirst_alike (nonempty : instances ≠ []) (recorder : R)
    (generator : Generator) :
    circuit.RunAlike (instances.take lanes.count).length recorder recorder
      (circuit.run (refill buffer (circuit.firstRows instances)) outputs recorder
        (instances.take lanes.count).length generator)
      (circuit.runFirst instances recorder generator) := by
  have accepts := prepared.accepts nonempty
  have counted := length_flatten_firstRows prepared.long
  have acceptsToo : circuit.Accepts (circuit.firstRows instances).flatten
      (List.replicate ((instances.take lanes.count).length * circuit.header.outputBytes) 0)
      (instances.take lanes.count).length :=
    ⟨accepts.nonempty, accepts.fits, Nat.le_of_eq counted.symm,
      Nat.le_of_eq List.length_replicate.symm⟩
  refine prepared.sound.run_alike accepts acceptsToo ?_ (Recorder.Alike.refl recorder) generator
  rw [refill, ← counted, List.take_left, List.take_length]

variable {traces : Nat → List (Register lanes)}
  (traced : circuit.TracesOf gates instances generator traces)

include traced

/-- A batch that is run fails exactly if its recorder does. -/
theorem Prepared.runFirst_eq_error_iff (nonempty : instances ≠ []) {recorder : R}
    {failure : RunFailure} :
    (circuit.runFirst instances recorder generator).result = .error failure ↔
      ∃ cause, failure = .trace cause ∧ Recorder.Fails recorder (traces 0) cause := by
  have accepts := prepared.accepts nonempty
  have trace := prepared.sound.trace_firstRows prepared.long accepts (traced.uncons nonempty).1
  rw [← (prepared.runFirst_alike nonempty recorder generator).result]
  simp only [Recorder.fails_iff]
  constructor
  · intro failed
    obtain ⟨cause, same, kept⟩ := prepared.sound.keep_of_failed_run accepts failed
    rw [trace] at kept
    exact ⟨cause, same, congrArg Prod.fst kept⟩
  · rintro ⟨cause, rfl, kept⟩
    rw [prepared.sound.run_eq accepts, trace]
    exact congrArg (Except.mapError RunFailure.trace) kept

end Batch

/-- A series has come to the batch of the given number, with the circuit and the generator so, and
goes on from there. -/
structure ComesTo (supply : RecorderSupplier A R) (supplier : A) (instances : List Bytes)
    (gates : List Gate) (traces : Nat → List (Register lanes)) (whole : SeriesOutcome lanes A R)
    (number : Nat) (current : Circuit lanes) (drawn : Generator) (buffer outputs : Bytes) :
    Prop where
  prepared : current.Prepared gates (lanes.remaining instances number) buffer outputs
  traced : current.TracesOf gates (lanes.remaining instances number) drawn
    fun batch => traces (number + batch)
  goesOn : ∃ done kept warnings, whole =
    { runSeriesFrom supply current drawn (supply.after supplier 0 number) number buffer outputs done
        kept (lanes.remaining instances number) with warnings := warnings }

section Step

variable {supply : RecorderSupplier A R} {supplier : A} {instances : List Bytes}
  {gates : List Gate} {traces : Nat → List (Register lanes)} {whole : SeriesOutcome lanes A R}
  {number : Nat} {current : Circuit lanes} {drawn : Generator} {buffer outputs : Bytes}
  (here : ComesTo supply supplier instances gates traces whole number current drawn buffer outputs)
  (inside : number < lanes.batches instances.length)

include here inside

theorem ComesTo.of_unsupplied {failure : RunFailure}
    (answered : supply.answer supplier number = .error failure) :
    whole.Halts failure current drawn (supply.after supplier 0 (number + 1)) := by
  obtain ⟨done, kept, warnings, rfl⟩ := here.goesOn
  have more := lanes.remaining_ne_nil_iff.mpr inside
  rw [runSeriesFrom_of_unsupplied more (supply.eq_of_answer supplier answered)]
  exact ⟨rfl, rfl, rfl, rfl⟩

variable {recorder : Option R}
  (answered : supply.answer supplier number = .ok recorder)

include answered

theorem ComesTo.of_failed {failure : RunFailure}
    (failed : (current.runFirst (lanes.remaining instances number) recorder drawn).result =
      .error failure) :
    let aborted := current.runFirst (lanes.remaining instances number) recorder drawn
    whole.Halts failure aborted.circuit aborted.generator
      (supply.after supplier 0 (number + 1)) := by
  obtain ⟨done, kept, warnings, rfl⟩ := here.goesOn
  have more := lanes.remaining_ne_nil_iff.mpr inside
  have alike := here.prepared.runFirst_alike more recorder drawn
  rw [runSeriesFrom_of_failed more (supply.eq_of_answer supplier answered) rfl
    (alike.result.trans failed)]
  exact ⟨rfl, alike.circuits, alike.generator, rfl⟩

/-- Behind a batch that succeeds, the series is as far as a call of its own would bring it. -/
theorem ComesTo.next
    (succeeded : (current.runFirst (lanes.remaining instances number) recorder drawn).result =
      .ok ()) :
    let outcome := current.runFirst (lanes.remaining instances number) recorder drawn
    ∃ buffer outputs, ComesTo supply supplier instances gates traces whole (number + 1)
      outcome.circuit outcome.generator buffer outputs := by
  intro outcome
  obtain ⟨done, kept, warnings, goesOn⟩ := here.goesOn
  have more := lanes.remaining_ne_nil_iff.mpr inside
  have accepts := here.prepared.accepts more
  have alike := here.prepared.runFirst_alike more recorder drawn
  obtain ⟨first, rest⟩ := here.traced.uncons more
  have keeps := here.prepared.sound.keep_of_run_rows here.prepared.long accepts first
    (alike.result.trans succeeded)
  have ran := here.prepared.sound.run_rows_of_keep here.prepared.long accepts first keeps
  have prepared := here.prepared.afterBatch ran
  rw [runSeriesFrom_of_batch more (supply.eq_of_answer supplier answered) rfl ran.succeeded,
    ← lanes.remaining_succ, alike.circuits, alike.generator] at goesOn
  rw [← ran.drawn, ← ran.program.tracesOf_eq, alike.circuits, alike.generator,
    ← lanes.remaining_succ] at rest
  rw [alike.circuits, ← lanes.remaining_succ] at prepared
  have places : (fun batch => traces (number + 1 + batch)) =
      fun batch => traces (number + (batch + 1)) := by
    funext batch
    rw [Nat.add_assoc, Nat.add_comm 1]
  refine ⟨_, _, prepared, ?_, _, _, _, goesOn⟩
  rw [places]
  exact rest

end Step

section Whole

variable {start : Circuit lanes} {supply : RecorderSupplier A R} {supplier : A}
  {instances : List Bytes} {generator : Generator} {gates : List Gate}
  {traces : Nat → List (Register lanes)}

theorem Sound.comesTo_first (sound : start.Sound gates)
    (long : ∀ input ∈ instances, start.header.inputBytes ≤ input.length)
    (traced : start.TracesOf gates instances generator traces) :
    ComesTo supply supplier instances gates traces
      (start.runSeries instances generator supply supplier) 0 start generator
      (List.replicate (lanes.count * start.header.inputBytes) 0)
      (List.replicate (lanes.count * start.header.outputBytes) 0) := by
  obtain ⟨warnings, whole⟩ := runSeries_of_long start long generator supply supplier
  refine ⟨?_, ?_, ?_⟩
  · rw [lanes.remaining_zero]
    exact sound.prepared long
  · rw [lanes.remaining_zero]
    simp only [Nat.zero_add]
    exact traced
  · rw [lanes.remaining_zero]
    exact ⟨_, _, warnings, whole⟩

variable {whole : SeriesOutcome lanes A R} {number : Nat} {current : Circuit lanes}
  {drawn : Generator} {buffer outputs : Bytes}

/-- The series comes to every batch that calls of their own reach, and with the same circuit and
generator. -/
theorem ReachesBatch.comesTo
    (reaches : start.ReachesBatch supply supplier instances generator number current drawn)
    (begins : ComesTo supply supplier instances gates traces whole 0 start generator buffer
      outputs) :
    ∃ buffer outputs, ComesTo supply supplier instances gates traces whole number current drawn
      buffer outputs := by
  induction reaches with
  | first => exact ⟨_, _, begins⟩
  | next before inside supplied succeeded ih =>
    obtain ⟨_, _, here⟩ := ih
    exact here.next inside supplied succeeded

/-- A series that fails comes to a batch that fails. The induction is on the batches that are
left. -/
theorem ComesTo.exists_failed
    (here : ComesTo supply supplier instances gates traces whole number current drawn buffer
      outputs)
    (reaches : start.ReachesBatch supply supplier instances generator number current drawn)
    {failure : RunFailure} (failed : whole.result = .error failure) :
    ∃ number current drawn, number < lanes.batches instances.length ∧
      start.ReachesBatch supply supplier instances generator number current drawn ∧
      (supply.answer supplier number = .error failure ∨
        ∃ recorder, supply.answer supplier number = .ok recorder ∧
          (current.runFirst (lanes.remaining instances number) recorder drawn).result =
            .error failure) := by
  induction left : lanes.batches instances.length - number
    generalizing number current drawn buffer outputs with
  | zero =>
    have finished : lanes.remaining instances number = [] := by
      by_cases more : lanes.remaining instances number = []
      · exact more
      · have inside := lanes.remaining_ne_nil_iff.mp more
        omega
    obtain ⟨done, kept, warnings, rfl⟩ := here.goesOn
    rw [finished, runSeriesFrom_nil] at failed
    cases failed
  | succ left ih =>
    have inside : number < lanes.batches instances.length := by omega
    rcases answered : supply.answer supplier number with cause | recorder
    · have halts := here.of_unsupplied inside answered
      obtain rfl := Except.error.inj (halts.result.symm.trans failed)
      exact ⟨number, current, drawn, inside, reaches, .inl answered⟩
    · rcases ran : (current.runFirst (lanes.remaining instances number) recorder drawn).result
        with cause | ⟨⟩
      · have halts := here.of_failed inside answered ran
        obtain rfl := Except.error.inj (halts.result.symm.trans failed)
        exact ⟨number, current, drawn, inside, reaches, .inr ⟨recorder, answered, ran⟩⟩
      · obtain ⟨_, _, later⟩ := here.next inside answered ran
        exact ih later (reaches.next inside answered ran) (by omega)

end Whole

/-- A series fails in three ways, and in none of them it returns outputs. If one of the instances is
too short, the first such is reported, and nothing has happened. Otherwise the supplier or the
recorder of a batch fails. The supplier has then been asked for the batches up to this one, in
order, and the circuit and the generator are as calls on the batches before have left them, and
the aborted call on this one if its recorder has failed. -/
theorem failing_series_halt {reservation : Reservation} {length : Option UInt64}
    {source : ByteSource} {circuit : Circuit lanes}
    (loaded : read lanes reservation length source = .ok circuit) {earlier : Ram lanes}
    (sized : earlier.size = circuit.ram.size) (instances : List Bytes) (generator : Generator) :
    let start : Circuit lanes := { circuit with ram := earlier }
    (∀ (A R : Type) [Recorder lanes R] (supply : RecorderSupplier A R) (supplier : A)
        (before behind : List Bytes) (short : Bytes),
      instances = before ++ short :: behind →
      (∀ input ∈ before, circuit.header.inputBytes ≤ input.length) →
      short.length < circuit.header.inputBytes →
      start.runSeries instances generator supply supplier =
        ⟨.error (.inputTooShort circuit.header.inputBytes short.length), start, generator, supplier,
          []⟩) ∧
    ((∀ input ∈ instances, circuit.header.inputBytes ≤ input.length) →
      ∃ (gates : List Gate) (traces : Nat → List (Register lanes)),
        circuit.gates = gates.map .ok ∧ circuit.TracesOf gates instances generator traces ∧
        ∀ (A R : Type) [Recorder lanes R] (supply : RecorderSupplier A R) (supplier : A),
          let outcome := start.runSeries instances generator supply supplier
          (∀ number current drawn, number < lanes.batches instances.length →
            start.ReachesBatch supply supplier instances generator number current drawn →
            (∀ failure, supply.answer supplier number = .error failure →
              outcome.Halts failure current drawn (supply.after supplier 0 (number + 1))) ∧
            ∀ recorder cause, supply.answer supplier number = .ok recorder →
              Recorder.Fails recorder (traces number) cause →
              let aborted := current.runFirst (lanes.remaining instances number) recorder drawn
              aborted.result = .error (.trace cause) ∧
                outcome.Halts (.trace cause) aborted.circuit aborted.generator
                  (supply.after supplier 0 (number + 1))) ∧
          ∀ failure, outcome.result = .error failure →
            ∃ number current drawn, number < lanes.batches instances.length ∧
              start.ReachesBatch supply supplier instances generator number current drawn ∧
              (supply.answer supplier number = .error failure ∨
                ∃ recorder cause, supply.answer supplier number = .ok recorder ∧
                  failure = .trace cause ∧ Recorder.Fails recorder (traces number) cause)) := by
  intro start
  obtain ⟨gates, loadedSound⟩ := (accepted_of_read loaded).sound
  have same : SameProgram circuit start := ⟨rfl, rfl, rfl, rfl, sized⟩
  have sound : start.Sound gates := loadedSound.of_sameProgram same
  refine ⟨?_, ?_⟩
  · intro A R _ supply supplier before behind short split long tooShort
    apply runSeries_of_short start
    rw [List.find?_eq_some_iff_append]
    refine ⟨by simpa using tooShort, before, behind, split, ?_⟩
    intro input member
    simpa using long input member
  · intro long
    obtain ⟨traces, traced⟩ := sound.exists_traces generator long
    refine ⟨gates, traces, loadedSound.decoded, same.tracesOf_eq ▸ traced, ?_⟩
    intro A R _ supply supplier outcome
    have begins : ComesTo supply supplier instances gates traces outcome 0 start generator _ _ :=
      sound.comesTo_first long traced
    refine ⟨?_, ?_⟩
    · intro number current drawn inside reaches
      obtain ⟨_, _, here⟩ := reaches.comesTo begins
      refine ⟨fun failure answered => here.of_unsupplied inside answered, ?_⟩
      intro recorder cause answered broken aborted
      have more := lanes.remaining_ne_nil_iff.mpr inside
      have failed : aborted.result = .error (.trace cause) :=
        (here.prepared.runFirst_eq_error_iff here.traced more).mpr ⟨cause, rfl, broken⟩
      exact ⟨failed, here.of_failed inside answered failed⟩
    · intro failure failed
      obtain ⟨number, current, drawn, inside, reaches, answered | ⟨recorder, answered, ran⟩⟩ :=
        begins.exists_failed .first failed
      · exact ⟨number, current, drawn, inside, reaches, .inl answered⟩
      · obtain ⟨_, _, here⟩ := reaches.comesTo begins
        have more := lanes.remaining_ne_nil_iff.mpr inside
        obtain ⟨cause, rfl, broken⟩ :=
          (here.prepared.runFirst_eq_error_iff here.traced more).mp ran
        exact ⟨number, current, drawn, inside, reaches, .inr ⟨recorder, cause, answered, rfl,
          broken⟩⟩

/-- Two batches of the inverter: with an instance that is too short, with no recorder for the second
batch, and with a sink for it that has no room. The supplier writes down what it is asked for. -/
theorem inverter_series_halts :
    read .eight Reservation.standard none (ByteSource.ofBytes inverter) =
        .ok (inverterLoaded .eight) ∧
      let start := inverterLoaded .eight
      let generator := Generator.ofSeed 2
      let instances : List Bytes := List.replicate 8 [0] ++ [[128, 7]]
      let roomy : StoredTrace .eight BoundedBuffer := StoredTrace.start .eight .unbounded
      let full : StoredTrace .eight BoundedBuffer := StoredTrace.start .eight ⟨#[], some 0, false⟩
      let missing : RunFailure := .traceUnopened "t" (.system .noEntry)
      let once : RecorderSupplier (List Nat) (StoredTrace .eight BoundedBuffer) :=
        fun asked batch =>
          (if batch = 0 then .ok (some roomy) else .error missing, asked ++ [batch])
      let filling : RecorderSupplier (List Nat) (StoredTrace .eight BoundedBuffer) :=
        fun asked batch => (.ok (some (if batch = 0 then roomy else full)), asked ++ [batch])
      let first := start.runFirst instances (some roomy) generator
      let second := first.circuit.runFirst [[128, 7]] (some full) first.generator
      let failure : RunFailure := .trace (.device .other "disk full")
      start.runSeries [[0], [], [1]] generator once [] =
          ⟨.error (.inputTooShort 1 0), start, generator, [], []⟩ ∧
        (start.runSeries instances generator once []).Halts missing first.circuit first.generator
          [0, 1] ∧
        (start.runSeries instances generator filling []).Halts failure second.circuit
          second.generator [0, 1] := by
  refine ⟨read_inverter .eight, ?_⟩
  intro start generator instances roomy full missing once filling first second failure
  have loaded : read .eight Reservation.standard none (ByteSource.ofBytes inverter) = .ok start :=
    read_inverter .eight
  have sized : start.ram.size = start.ram.size := rfl
  have long : ∀ input ∈ instances, start.header.inputBytes ≤ input.length := by decide
  obtain ⟨tooShort, -⟩ := failing_series_halt loaded sized [[0], [], [1]] generator
  obtain ⟨-, halts⟩ := failing_series_halt loaded sized instances generator
  obtain ⟨gates, traces, decoded, traced, series⟩ := halts long
  have sound : start.Sound _ := sound_inverterLoaded .eight
  have accepts : start.Accepts (start.firstRows instances).flatten
      (List.replicate (8 * start.header.outputBytes) 0) 8 :=
    ⟨by decide, by decide, by decide, by decide⟩
  have reliable : Recorder.Reliable (some roomy) :=
    (StoredTrace.reliable ByteSink.reliable_unbounded).some
  have succeeded : first.result = .ok () := sound.run_of_reliable accepts reliable
  refine ⟨?_, ?_, ?_⟩
  · have row : start.header.inputBytes = 1 := by decide
    have refused : start.runSeries [[0], [], [1]] generator once [] =
        ⟨.error (.inputTooShort start.header.inputBytes 0), start, generator, [], []⟩ :=
      tooShort _ _ once [] [[0]] [[1]] [] rfl (by decide) (by decide)
    rwa [row] at refused
  · obtain ⟨stops, -⟩ := series _ _ once []
    have reaches : start.ReachesBatch once [] instances generator 1 first.circuit first.generator :=
      .next .first (by decide) rfl succeeded
    exact (stops 1 _ _ (by decide) reaches).1 missing rfl
  · obtain ⟨stops, -⟩ := series _ _ filling []
    have reaches : start.ReachesBatch filling [] instances generator 1 first.circuit
        first.generator := .next .first (by decide) rfl succeeded
    have broken : Recorder.RefusesAt (some full) (traces 1) 0 (.device .other "disk full")
        (some full) := by
      obtain rfl : gates = [⟨.not, 0, 0, 1⟩] :=
        (List.map_inj_right fun _ _ => Except.ok.inj).mp (decoded.symm.trans sound.decoded)
      have written := congrArg List.length (traced 1 (by decide) 0 (by decide))
      rw [List.length_map] at written
      obtain ⟨register, only⟩ := List.length_eq_one_iff.mp (written.trans rfl)
      exact ⟨[], register, [], some full, only, rfl, rfl, rfl⟩
    exact ((stops 1 _ _ (by decide) reaches).2 (some full) _ rfl ⟨_, .inl ⟨0, broken⟩⟩).2

end Circuit

end Bitslice
