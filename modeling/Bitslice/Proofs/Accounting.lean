import Bitslice.Circuit.Load
import Bitslice.Proofs.Series
import Bitslice.Proofs.Sessions
import Bitslice.Proofs.StoredTraces
import Bitslice.Trace.Split

/-!
# Accounting for random words

A generator takes the words of its keystream in order and loses none. Calls
move it by the draws of the gates that they execute: `Circuit.executedGates`
lists these as a run goes along, and `Session.executed` puts them together over
any sequence of calls, loads and splits. What a run executes depends only on
where its recorder stops it (`Circuit.Sound.executed_eq`).
-/

namespace Bitslice

variable {lanes : Lanes}

theorem Gate.draws_append (first second : List Gate) :
    draws (first ++ second) = draws first + draws second :=
  List.countP_append

namespace Generator

/-- The next word is the one at the position, and the position moves on by one. -/
theorem next_eq (generator : Generator) :
    generator.next.1 = Keystream.word generator.key generator.position ∧
      generator.next.2.key = generator.key ∧
      generator.next.2.position = generator.position + 1 := by
  unfold next
  rw [Keystream.word, ← generator.current_eq]
  simp only
  split
  · exact ⟨rfl, rfl, rfl⟩
  · exact ⟨rfl, rfl, rfl⟩

/-- Words are taken in order, and no word is lost. -/
theorem take_eq (count : Nat) (generator : Generator) :
    (generator.take count).1 = (List.range count).map (fun index =>
        Keystream.word generator.key (generator.position + index)) ∧
      (generator.take count).2.key = generator.key ∧
      (generator.take count).2.position = generator.position + count := by
  induction count generalizing generator with
  | zero => exact ⟨rfl, rfl, rfl⟩
  | succ count ih =>
    obtain ⟨word, key, position⟩ := generator.next_eq
    obtain ⟨words, lastKey, lastPosition⟩ := ih generator.next.2
    rw [key] at words lastKey
    rw [position] at words lastPosition
    refine ⟨?_, lastKey, ?_⟩
    · rw [take, List.range_succ_eq_map, List.map_cons, List.map_map]
      simp only [words, word, Nat.add_zero, List.cons.injEq, true_and]
      apply List.map_congr_left
      intro index _
      simp only [Function.comp_apply]
      rw [Nat.succ_eq_add_one, Nat.add_right_comm, Nat.add_assoc]
    · rw [take]
      simp only [lastPosition]
      omega

theorem draw_eq (lanes : Lanes) (generator : Generator) :
    (generator.draw lanes).1 = Register.ofWords lanes ((List.range lanes.words).map fun index =>
        Keystream.word generator.key (generator.position + index)) ∧
      (generator.draw lanes).2.key = generator.key ∧
      (generator.draw lanes).2.position = generator.position + lanes.words := by
  obtain ⟨words, key, position⟩ := take_eq lanes.words generator
  exact ⟨congrArg (Register.ofWords lanes) words, key, position⟩

theorem drawMany_eq (count : Nat) (generator : Generator) :
    (generator.drawMany lanes count).2.key = generator.key ∧
      (generator.drawMany lanes count).2.position = generator.position + lanes.words * count := by
  induction count generalizing generator with
  | zero => exact ⟨rfl, rfl⟩
  | succ count ih =>
    obtain ⟨-, key, position⟩ := generator.draw_eq lanes
    obtain ⟨lastKey, lastPosition⟩ := ih (generator.draw lanes).2
    refine ⟨lastKey.trans key, lastPosition.trans ?_⟩
    rw [position, Nat.mul_succ]
    omega

/-- The generator has moved on by what these gates draw, and is otherwise the same. -/
structure Accounts (lanes : Lanes) (gates : List Gate) (earlier later : Generator) : Prop where
  key : later.key = earlier.key
  position : later.position = earlier.position + lanes.words * Gate.draws gates

theorem Accounts.nil (generator : Generator) : Accounts lanes [] generator generator :=
  ⟨rfl, rfl⟩

theorem Accounts.eq_of_nil {earlier later : Generator}
    (accounts : Accounts lanes [] earlier later) : later = earlier :=
  Generator.ext accounts.key accounts.position

theorem Accounts.append {first second : List Gate} {earlier middle later : Generator}
    (before : Accounts lanes first earlier middle) (after : Accounts lanes second middle later) :
    Accounts lanes (first ++ second) earlier later where
  key := after.key.trans before.key
  position := by
    rw [after.position, before.position, Gate.draws_append, Nat.mul_add, Nat.add_assoc]

/-- What is drawn after some gates are the next words of the keystream. -/
theorem Accounts.drawn_eq {gates : List Gate} {earlier later : Generator}
    (accounts : Accounts lanes gates earlier later) (number : Nat) :
    later.drawn lanes number = Register.ofWords lanes ((List.range lanes.words).map fun index =>
      Keystream.word earlier.key
        (earlier.position + lanes.words * (Gate.draws gates + number) + index)) := by
  obtain ⟨key, position⟩ := drawMany_eq number later
  obtain ⟨value, -, -⟩ := (later.drawMany lanes number).2.draw_eq lanes
  rw [drawn, value, key, position, accounts.key, accounts.position, Nat.mul_add, Nat.add_assoc]

end Generator

/-- Evaluating a gate moves the generator by that gate's draw. -/
theorem Gate.accounts_evaluate {gate : Gate} {ram : Ram lanes} {register : Register lanes}
    {generator next : Generator} (evaluated : gate.evaluate ram generator = .ok (register, next)) :
    Generator.Accounts lanes [gate] generator next := by
  obtain ⟨operator, first, second, destination⟩ := gate
  obtain ⟨_, -, evaluated⟩ := bind_eq_ok_iff.mp evaluated
  cases operator with
  | random =>
    obtain ⟨-, key, position⟩ := generator.draw_eq lanes
    obtain rfl := congrArg Prod.snd (Except.ok.inj evaluated)
    exact ⟨key, position.trans (by rw [show Gate.draws _ = 1 from rfl, Nat.mul_one])⟩
  | not =>
    obtain ⟨_, -, evaluated⟩ := bind_eq_ok_iff.mp evaluated
    obtain rfl := congrArg Prod.snd (Except.ok.inj evaluated)
    exact ⟨rfl, rfl⟩
  | xor | and | or =>
    obtain ⟨_, -, evaluated⟩ := bind_eq_ok_iff.mp evaluated
    obtain ⟨_, -, evaluated⟩ := bind_eq_ok_iff.mp evaluated
    obtain rfl := congrArg Prod.snd (Except.ok.inj evaluated)
    exact ⟨rfl, rfl⟩

namespace Circuit

section Executing

variable {R : Type} [Recorder lanes R]

/-- The gates that have been executed when the run ends: each that has written its cell, the one
whose record is refused included. -/
def executedGates (ram : Ram lanes) (recorder : R) (generator : Generator) :
    List (Except Malformed Gate) → List Gate
  | [] => []
  | .error _ :: _ => []
  | .ok gate :: later =>
    match gate.evaluate ram generator with
    | .error _ => []
    | .ok (register, generator) =>
      match Recorder.record recorder register with
      | (.error _, _) => [gate]
      | (.ok (), recorder) =>
        gate :: executedGates (ram.write gate.destination register) recorder generator later

/-- The gates that a run executes. -/
def executed (circuit : Circuit lanes) (inputs outputs : Bytes) (recorder : R) (batch : Nat)
    (generator : Generator) : List Gate :=
  match circuit.checkArguments inputs.length outputs.length batch with
  | .error _ => []
  | .ok () => executedGates (circuit.packed inputs batch) recorder generator circuit.gates

/-- The gates that a run with a trace file executes. -/
def executedToFile (circuit : Circuit lanes) (inputs outputs : Bytes) (path : Option String)
    (batch : Nat) (generator : Generator) (tree : FileTree) : List Gate :=
  match path.filter (· ≠ "") with
  | none =>
    circuit.executed inputs outputs (none : Option (StoredTrace lanes FileWriter)) batch generator
  | some path =>
    match tree.createFile path with
    | .error _ => []
    | .ok created =>
      circuit.executed inputs outputs
        (some (StoredTrace.start lanes (FileWriter.start (created.deviceAt path)))) batch generator

/-- The gates that the remaining batches of a series execute, one batch after the other. -/
def executedSeriesFrom {A : Type} (supply : RecorderSupplier A R) (circuit : Circuit lanes)
    (generator : Generator) (supplier : A) (number : Nat) (buffer outputs : Bytes)
    (instances : List Bytes) : List Gate :=
  if instances.isEmpty then []
  else
    let buffer := refill buffer (circuit.firstRows instances)
    let batch := (instances.take lanes.count).length
    match supply supplier number with
    | (.error _, _) => []
    | (.ok recorder, supplier) =>
      let outcome := circuit.run buffer outputs recorder batch generator
      circuit.executed buffer outputs recorder batch generator ++
        match outcome.result with
        | .error _ => []
        | .ok () =>
          executedSeriesFrom supply outcome.circuit outcome.generator supplier (number + 1) buffer
            outcome.outputs (instances.drop lanes.count)
termination_by instances.length
decreasing_by
  have present := List.length_pos_iff.mpr (by simpa using ‹¬instances.isEmpty = true›)
  have positive := lanes.count_pos
  rw [List.length_drop]
  omega

/-- The gates that a series executes. -/
def executedSeries {A : Type} (circuit : Circuit lanes) (instances : List Bytes)
    (generator : Generator) (supply : RecorderSupplier A R) (supplier : A) : List Gate :=
  match instances.find? (·.length < circuit.header.inputBytes) with
  | some _ => []
  | none =>
    executedSeriesFrom supply circuit generator supplier 0
      (List.replicate (lanes.count * circuit.header.inputBytes) 0)
      (List.replicate (lanes.count * circuit.header.outputBytes) 0) instances

theorem accounts_applyGates (ram : Ram lanes) (recorder : R) (generator : Generator)
    (items : List (Except Malformed Gate)) :
    Generator.Accounts lanes (executedGates ram recorder generator items) generator
      (applyGates ram recorder generator items).2.generator := by
  induction items generalizing ram recorder generator with
  | nil =>
    rw [applyGates]
    rcases Recorder.finish recorder with ⟨cause | ⟨⟩, next⟩
    · exact .nil generator
    · exact .nil generator
  | cons item later ih =>
    rcases item with cause | gate
    · exact .nil generator
    · rw [applyGates, executedGates]
      rcases evaluated : gate.evaluate ram generator with failure | ⟨register, next⟩
      · exact .nil generator
      · have first := Gate.accounts_evaluate evaluated
        simp only
        rcases Recorder.record recorder register with ⟨cause | ⟨⟩, recorder⟩
        · exact first
        · exact first.append (ih ..)

theorem accounts_run (circuit : Circuit lanes) (inputs outputs : Bytes) (recorder : R) (batch : Nat)
    (generator : Generator) :
    Generator.Accounts lanes (circuit.executed inputs outputs recorder batch generator) generator
      (circuit.run inputs outputs recorder batch generator).generator := by
  rw [run, executed]
  rcases circuit.checkArguments inputs.length outputs.length batch with failure | ⟨⟩
  · exact .nil generator
  · have applied := accounts_applyGates (circuit.packed inputs batch) recorder generator
      circuit.gates
    rw [packed] at applied ⊢
    simp only
    rcases answered : applyGates (circuit.ram.cleared.pack circuit.inputs inputs
      circuit.header.inputBytes batch) recorder generator circuit.gates with
      ⟨failure | ⟨⟩, progress⟩
    · rwa [answered] at applied
    · rwa [answered] at applied

theorem accounts_runToFile (circuit : Circuit lanes) (inputs outputs : Bytes)
    (path : Option String) (batch : Nat) (generator : Generator) (tree : FileTree) :
    Generator.Accounts lanes (circuit.executedToFile inputs outputs path batch generator tree)
      generator (circuit.runToFile inputs outputs path batch generator tree).outcome.generator := by
  unfold runToFile executedToFile
  rcases path.filter (· ≠ "") with none | path
  · exact circuit.accounts_run inputs outputs none batch generator
  · simp only
    rcases checked : circuit.checkArguments inputs.length outputs.length batch with failure | ⟨⟩
    · rcases tree.createFile path with cause | created
      · exact .nil generator
      · simp only [executed, checked]
        exact .nil generator
    · rcases tree.createFile path with cause | created
      · exact .nil generator
      · exact circuit.accounts_run inputs outputs
          (some (StoredTrace.start lanes (FileWriter.start (created.deviceAt path)))) batch
          generator

/-- The remaining batches of a series. The induction takes the first batch off; the next one goes
on with the generator that it leaves. -/
theorem accounts_runSeriesFrom {A : Type} (supply : RecorderSupplier A R) (circuit : Circuit lanes)
    (generator : Generator) (supplier : A) (number : Nat) (buffer outputs : Bytes)
    (done : Array Bytes) (kept : Array R) (instances : List Bytes) :
    Generator.Accounts lanes
      (executedSeriesFrom supply circuit generator supplier number buffer outputs instances)
      generator
      (runSeriesFrom supply circuit generator supplier number buffer outputs done kept
        instances).generator := by
  induction instances using lanes.batch_induction
    generalizing circuit generator supplier number buffer outputs done kept with
  | nil =>
    rw [runSeriesFrom_nil, executedSeriesFrom]
    exact .nil generator
  | batch instances empty ih =>
    have unfinished : ¬instances.isEmpty = true := by simpa using empty
    rw [executedSeriesFrom, if_neg unfinished]
    rcases answered : supply supplier number with ⟨failure | recorder, next⟩
    · rw [runSeriesFrom_of_unsupplied empty answered]
      exact .nil generator
    · have first := circuit.accounts_run (refill buffer (circuit.firstRows instances)) outputs
        recorder (instances.take lanes.count).length generator
      simp only
      generalize ran : circuit.run (refill buffer (circuit.firstRows instances)) outputs recorder
        (instances.take lanes.count).length generator = outcome at first
      rcases answer : outcome.result with failure | ⟨⟩
      · rw [runSeriesFrom_of_failed empty answered ran answer, List.append_nil]
        exact first
      · rw [runSeriesFrom_of_batch empty answered ran answer]
        exact first.append (ih ..)

theorem accounts_runSeries {A : Type} (circuit : Circuit lanes) (instances : List Bytes)
    (generator : Generator) (supply : RecorderSupplier A R) (supplier : A) :
    Generator.Accounts lanes (circuit.executedSeries instances generator supply supplier) generator
      (circuit.runSeries instances generator supply supplier).generator := by
  rcases found : instances.find? (·.length < circuit.header.inputBytes) with none | short
  · simp only [runSeries, executedSeries, found]
    exact accounts_runSeriesFrom ..
  · simp only [runSeries, executedSeries, found]
    exact .nil generator

end Executing

end Circuit

namespace Circuit

section Sound

variable {R : Type} [Recorder lanes R] {circuit : Circuit lanes} {gates : List Gate}
  {inputs outputs : Bytes} {batch : Nat} {generator : Generator}

/-- Gates inside the memory are executed up to the one whose record is refused. -/
theorem executedGates_eq {ram : Ram lanes} (inside : ∀ gate ∈ gates, gate.Inside ram.size)
    (recorder : R) (generator : Generator) :
    executedGates ram recorder generator (gates.map .ok) =
      gates.take (Recorder.taken recorder (Gate.compute ram generator gates).trace + 1) := by
  induction gates generalizing ram generator recorder with
  | nil => rfl
  | cons gate gates ih =>
    have evaluated : gate.evaluate ram generator = .ok (gate.value ram generator) :=
      Gate.evaluate_eq_ok (inside gate (.head _))
    rw [List.map_cons, executedGates, evaluated, Gate.compute, List.take_succ_cons]
    simp only
    rcases took : Recorder.record recorder (gate.value ram generator).1 with ⟨cause | ⟨⟩, next⟩
    · rw [Recorder.taken_cons_of_error took, List.take_zero]
    · have laterInside : ∀ later ∈ gates, later.Inside
          (ram.write gate.destination (gate.value ram generator).1).size := by
        intro later member
        rw [Ram.size_write]
        exact inside later (.tail _ member)
      rw [Recorder.taken_cons_of_ok took]
      exact congrArg (gate :: ·) (ih laterInside next _)

theorem Sound.executed_eq (sound : circuit.Sound gates)
    (accepts : circuit.Accepts inputs outputs batch) (recorder : R) (generator : Generator) :
    circuit.executed inputs outputs recorder batch generator =
      gates.take (Recorder.taken recorder
        (circuit.computation gates inputs batch generator).trace + 1) := by
  rw [executed, checkArguments_eq_ok_iff.mpr accepts, sound.decoded]
  exact executedGates_eq (sound.gates_inside_packed inputs batch) recorder generator

theorem executed_of_not_accepts (refused : ¬circuit.Accepts inputs outputs batch) (recorder : R)
    (generator : Generator) : circuit.executed inputs outputs recorder batch generator = [] := by
  rw [executed]
  rcases checked : circuit.checkArguments inputs.length outputs.length batch with failure | ⟨⟩
  · rfl
  · exact absurd (checkArguments_eq_ok_iff.mp checked) refused

/-- A run whose recorder takes every record executes all gates, also when the recorder then fails
to finish. -/
theorem Sound.executed_of_feed (sound : circuit.Sound gates)
    (accepts : circuit.Accepts inputs outputs batch) {recorder : R}
    (fed : (Recorder.feed recorder
      (circuit.computation gates inputs batch generator).trace).1 = .ok ()) :
    circuit.executed inputs outputs recorder batch generator = gates := by
  rw [sound.executed_eq accepts, Recorder.taken_of_feed fed, computation, Gate.length_compute]
  exact List.take_of_length_le (Nat.le_succ _)

/-- A run whose recorder refuses a record executes the gates up to that one. -/
theorem Sound.executed_of_refusal (sound : circuit.Sound gates)
    (accepts : circuit.Accepts inputs outputs batch) {recorder next last : R}
    {earlier later : List (Register lanes)} {register : Register lanes} {cause : IoFailure}
    (whole : (circuit.computation gates inputs batch generator).trace =
      earlier ++ register :: later)
    (fed : Recorder.feed recorder earlier = (.ok (), next))
    (refused : Recorder.record next register = (.error cause, last)) :
    circuit.executed inputs outputs recorder batch generator =
      gates.take (earlier.length + 1) := by
  rw [sound.executed_eq accepts, whole, Recorder.taken_append fed,
    Recorder.taken_cons_of_error refused, Nat.add_zero]

theorem Sound.executed_of_run (sound : circuit.Sound gates) {recorder : R}
    (succeeded : (circuit.run inputs outputs recorder batch generator).result = .ok ()) :
    circuit.executed inputs outputs recorder batch generator = gates := by
  obtain ⟨accepts, keeps⟩ := sound.keep_of_run succeeded
  obtain ⟨fed, complete, -⟩ := Recorder.keep_eq_ok_iff.mp keeps
  exact sound.executed_of_feed accepts (congrArg Prod.fst complete)

/-- What a series executes: all gates for each batch that succeeds, and for the batch that ends the
series early, if it is run at all, what that run executes. -/
structure ExecutesSeries {A : Type} (circuit : Circuit lanes) (gates : List Gate) (batches : Nat)
    (executed : List Gate) (outcome : SeriesOutcome lanes A R) : Prop where
  succeeded : ∀ answer, outcome.result = .ok answer →
    executed = (List.replicate batches gates).flatten
  failed : ∀ failure, outcome.result = .error failure → ∃ complete last, complete < batches ∧
    executed = (List.replicate complete gates).flatten ++ last ∧
      (last = [] ∨ ∃ (used : Circuit lanes) (inputs outputs : Bytes) (recorder : Option R)
          (batch : Nat) (generator : Generator),
        SameProgram circuit used ∧
          (used.run inputs outputs recorder batch generator).result = .error failure ∧
          last = used.executed inputs outputs recorder batch generator)

/-- A series that fails before its first batch executes nothing. -/
theorem ExecutesSeries.of_unstarted {A : Type} {batches : Nat} {outcome : SeriesOutcome lanes A R}
    {failure : RunFailure} (present : 0 < batches) (failed : outcome.result = .error failure) :
    circuit.ExecutesSeries gates batches [] outcome where
  succeeded := by
    intro answer succeeded
    rw [failed] at succeeded
    cases succeeded
  failed := by
    intro failure _
    exact ⟨0, [], present, rfl, .inl rfl⟩

/-- A batch that succeeds goes in front of what the rest of the series executes. -/
theorem ExecutesSeries.cons {A : Type} {later : Circuit lanes} {batches : Nat}
    {executed : List Gate} {outcome : SeriesOutcome lanes A R} (same : SameProgram circuit later)
    (rest : later.ExecutesSeries gates batches executed outcome) :
    circuit.ExecutesSeries gates (batches + 1) (gates ++ executed) outcome where
  succeeded := by
    intro answer succeeded
    rw [rest.succeeded answer succeeded, List.replicate_succ, List.flatten_cons]
  failed := by
    intro failure failed
    obtain ⟨complete, last, fewer, rfl, ended⟩ := rest.failed failure failed
    refine ⟨complete + 1, last, Nat.succ_lt_succ fewer, ?_, ?_⟩
    · rw [List.replicate_succ, List.flatten_cons, List.append_assoc]
    · rcases ended with none | ⟨used, inputs, outputs, recorder, batch, generator, program, ran⟩
      · exact .inl none
      · exact .inr ⟨used, inputs, outputs, recorder, batch, generator, same.trans program, ran⟩

/-- The remaining batches of a series, by induction on the batches. -/
theorem Sound.executesSeriesFrom {A : Type} (sound : circuit.Sound gates)
    (supply : RecorderSupplier A R) (generator : Generator) (supplier : A) (number : Nat)
    (buffer outputs : Bytes) (done : Array Bytes) (kept : Array R) (instances : List Bytes) :
    circuit.ExecutesSeries gates (lanes.batches instances.length)
      (executedSeriesFrom supply circuit generator supplier number buffer outputs instances)
      (runSeriesFrom supply circuit generator supplier number buffer outputs done kept
        instances) := by
  induction instances using lanes.batch_induction
    generalizing circuit generator supplier number buffer outputs done kept with
  | nil =>
    rw [runSeriesFrom_nil, executedSeriesFrom, List.length_nil, lanes.batches_zero]
    refine ⟨fun _ _ => rfl, ?_⟩
    rintro _ ⟨⟩
  | batch instances empty ih =>
    have unfinished : ¬instances.isEmpty = true := by simpa using empty
    rw [executedSeriesFrom, if_neg unfinished, batches_eq_succ empty]
    rcases answered : supply supplier number with ⟨failure | recorder, next⟩
    · rw [runSeriesFrom_of_unsupplied empty answered]
      exact .of_unstarted (Nat.succ_pos _) rfl
    · simp only
      generalize ran : circuit.run (refill buffer (circuit.firstRows instances)) outputs recorder
        (instances.take lanes.count).length generator = outcome
      rcases answer : outcome.result with failure | ⟨⟩
      · rw [runSeriesFrom_of_failed empty answered ran answer, List.append_nil]
        constructor
        · rintro _ ⟨⟩
        · rintro _ ⟨⟩
          refine ⟨0, _, Nat.succ_pos _, rfl, .inr ⟨circuit, _, _, _, _, _, .refl circuit, ?_, rfl⟩⟩
          rw [ran, answer]
      · have same := (sound.run_safe (refill buffer (circuit.firstRows instances)) outputs
          recorder (instances.take lanes.count).length generator).1
        have whole : circuit.executed (refill buffer (circuit.firstRows instances)) outputs
            recorder (instances.take lanes.count).length generator = gates := by
          apply sound.executed_of_run
          rw [ran, answer]
        rw [ran] at same
        rw [runSeriesFrom_of_batch empty answered ran answer, whole]
        exact .cons same (ih (sound.of_sameProgram same) ..)

theorem Sound.executesSeries {A : Type} (sound : circuit.Sound gates) (instances : List Bytes)
    (generator : Generator) (supply : RecorderSupplier A R) (supplier : A) :
    circuit.ExecutesSeries gates (lanes.batches instances.length)
      (circuit.executedSeries instances generator supply supplier)
      (circuit.runSeries instances generator supply supplier) := by
  rcases found : instances.find? (·.length < circuit.header.inputBytes) with none | short
  · have series := sound.executesSeriesFrom supply generator supplier 0
      (List.replicate (lanes.count * circuit.header.inputBytes) 0)
      (List.replicate (lanes.count * circuit.header.outputBytes) 0) #[] #[] instances
    simp only [runSeries, executedSeries, found]
    exact ⟨series.succeeded, series.failed⟩
  · have present : 0 < lanes.batches instances.length := by
      have nonempty : instances ≠ [] := List.ne_nil_of_mem (List.mem_of_find?_eq_some found)
      rw [batches_eq_succ nonempty]
      exact Nat.succ_pos _
    simp only [runSeries, executedSeries, found]
    exact .of_unstarted present rfl

/-- What calls on a circuit with this program execute: nothing if they are refused, all gates if the
run comes to the end of them, and else those up to the one whose record is refused. A trace file is
a recorder like any other; whether it takes a record depends on what it stands on. -/
structure Executes (circuit : Circuit lanes) (program : List Gate) : Prop where
  refused : ∀ {R : Type} [Recorder lanes R] {inputs outputs : Bytes} {batch : Nat} (recorder : R)
    (generator : Generator), ¬circuit.Accepts inputs outputs batch →
    circuit.executed inputs outputs recorder batch generator = []
  finished : ∀ {R : Type} [Recorder lanes R] {inputs outputs : Bytes} {batch : Nat} {recorder : R}
    {generator : Generator}, circuit.Accepts inputs outputs batch →
    (Recorder.feed recorder (circuit.computation program inputs batch generator).trace).1 =
      .ok () →
    circuit.executed inputs outputs recorder batch generator = program
  stopped : ∀ {R : Type} [Recorder lanes R] {inputs outputs : Bytes} {batch : Nat}
    {recorder next last : R} {generator : Generator} {earlier later : List (Register lanes)}
    {register : Register lanes} {cause : IoFailure}, circuit.Accepts inputs outputs batch →
    (circuit.computation program inputs batch generator).trace = earlier ++ register :: later →
    Recorder.feed recorder earlier = (.ok (), next) →
    Recorder.record next register = (.error cause, last) →
    circuit.executed inputs outputs recorder batch generator = program.take (earlier.length + 1)
  refusedToFile : ∀ {inputs outputs : Bytes} {batch : Nat} (path : Option String)
    (generator : Generator) (tree : FileTree), ¬circuit.Accepts inputs outputs batch →
    circuit.executedToFile inputs outputs path batch generator tree = []
  unopened : ∀ (inputs outputs : Bytes) (batch : Nat) {path : String} (generator : Generator)
    {tree : FileTree} {cause : IoFailure}, path ≠ "" → tree.createFile path = .error cause →
    circuit.executedToFile inputs outputs (some path) batch generator tree = []
  finishedToFile : ∀ {inputs outputs : Bytes} {batch : Nat} {path : Option String}
    (generator : Generator) {tree : FileTree}, circuit.Accepts inputs outputs batch →
    (∀ named, path.filter (· ≠ "") = some named → ∃ created, tree.createFile named = .ok created ∧
      (Recorder.feed (StoredTrace.start lanes (FileWriter.start (created.deviceAt named)))
        (circuit.computation program inputs batch generator).trace).1 = .ok ()) →
    circuit.executedToFile inputs outputs path batch generator tree = program
  stoppedToFile : ∀ {inputs outputs : Bytes} {batch : Nat} {path : String} {generator : Generator}
    {tree created : FileTree} {next last : StoredTrace lanes FileWriter}
    {earlier later : List (Register lanes)} {register : Register lanes} {cause : IoFailure},
    circuit.Accepts inputs outputs batch → path ≠ "" → tree.createFile path = .ok created →
    (circuit.computation program inputs batch generator).trace = earlier ++ register :: later →
    Recorder.feed (StoredTrace.start lanes (FileWriter.start (created.deviceAt path))) earlier =
      (.ok (), next) →
    Recorder.record next register = (.error cause, last) →
    circuit.executedToFile inputs outputs (some path) batch generator tree =
      program.take (earlier.length + 1)
  series : ∀ {A R : Type} [Recorder lanes R] (instances : List Bytes) (generator : Generator)
    (supply : RecorderSupplier A R) (supplier : A),
    circuit.ExecutesSeries program (lanes.batches instances.length)
      (circuit.executedSeries instances generator supply supplier)
      (circuit.runSeries instances generator supply supplier)

theorem Sound.executes (sound : circuit.Sound gates) : circuit.Executes gates where
  refused recorder generator refuses := executed_of_not_accepts refuses recorder generator
  finished accepts fed := sound.executed_of_feed accepts fed
  stopped accepts whole fed refused := sound.executed_of_refusal accepts whole fed refused
  refusedToFile := by
    intro inputs outputs batch path generator tree refuses
    unfold executedToFile
    rcases path.filter (· ≠ "") with none | path
    · exact executed_of_not_accepts refuses _ generator
    · simp only
      rcases tree.createFile path with cause | created
      · rfl
      · exact executed_of_not_accepts refuses _ generator
  unopened := by
    intro inputs outputs batch path generator tree cause named unopened
    rw [executedToFile, filter_of_named named]
    simp only [unopened]
  finishedToFile := by
    intro inputs outputs batch path generator tree accepts takes
    unfold executedToFile
    rcases filtered : path.filter (· ≠ "") with none | path
    · exact sound.executed_of_run (sound.run_of_reliable accepts Recorder.reliable_none)
    · obtain ⟨created, made, fed⟩ := takes path filtered
      simp only [made]
      refine sound.executed_of_feed accepts ?_
      rw [Recorder.feed_some]
      exact fed
  stoppedToFile := by
    intro inputs outputs batch path generator tree created next last earlier later register cause
      accepts named made whole fed refused
    have told : Recorder.record (some next) register = (.error cause, some last) := by
      rw [Recorder.record_some, refused]
    rw [executedToFile, filter_of_named named]
    simp only [made]
    refine sound.executed_of_refusal accepts whole ?_ told
    rw [Recorder.feed_some, fed]
  series instances generator supply supplier :=
    sound.executesSeries instances generator supply supplier

end Sound

end Circuit

namespace Call

/-- The same call, drawing from another generator. -/
def drawingFrom (generator : Generator) : Call lanes → Call lanes
  | run inputs outputs recorder batch _ => run inputs outputs recorder batch generator
  | runToFile inputs outputs path batch _ tree =>
    runToFile inputs outputs path batch generator tree
  | runSeriesUntraced instances _ => runSeriesUntraced instances generator
  | runSeries instances _ supply supplier => runSeries instances generator supply supplier
  | replay source => replay source

/-- The generator as a call leaves it that draws from this one. A replay takes none. -/
def leaves (circuit : Circuit lanes) (generator : Generator) : Call lanes → Generator
  | run inputs outputs recorder batch _ =>
    (circuit.run inputs outputs recorder batch generator).generator
  | runToFile inputs outputs path batch _ tree =>
    (circuit.runToFile inputs outputs path batch generator tree).outcome.generator
  | runSeriesUntraced instances _ => (circuit.runSeriesUntraced instances generator).generator
  | runSeries instances _ supply supplier =>
    (circuit.runSeries instances generator supply supplier).generator
  | replay _ => generator

/-- The gates that a call executes. -/
def executed (circuit : Circuit lanes) (generator : Generator) : Call lanes → List Gate
  | run inputs outputs recorder batch _ =>
    circuit.executed inputs outputs recorder batch generator
  | runToFile inputs outputs path batch _ tree =>
    circuit.executedToFile inputs outputs path batch generator tree
  | runSeriesUntraced instances _ =>
    circuit.executedSeries instances generator
      (fun supplier _ => (.ok (none : Option (Untraced lanes)), supplier)) ()
  | runSeries instances _ supply supplier =>
    circuit.executedSeries instances generator supply supplier
  | replay _ => []

theorem accounts (circuit : Circuit lanes) (generator : Generator) (call : Call lanes) :
    Generator.Accounts lanes (call.executed circuit generator) generator
      (call.leaves circuit generator) := by
  cases call with
  | run inputs outputs recorder batch _ => exact circuit.accounts_run ..
  | runToFile inputs outputs path batch _ tree => exact circuit.accounts_runToFile ..
  | runSeriesUntraced instances _ => exact circuit.accounts_runSeries ..
  | runSeries instances _ supply supplier => exact circuit.accounts_runSeries ..
  | replay source => exact .nil generator

end Call

/-- One thing to do in a session. -/
inductive Operation (lanes : Lanes) : Type 1 where
  | load (reservation : Reservation) (length : Option UInt64) (source : ByteSource)
  | call (handle : Nat) (call : Call lanes)
  | split {W : Type} [ByteSink W] (source : ByteSource) (writers : List W)

/-- The circuits that were loaded so far, and the generator that all calls draw from. -/
structure Session (lanes : Lanes) where
  /-- The circuits in the order they were loaded. -/
  circuits : List (Circuit lanes)
  /-- The generator. -/
  generator : Generator

namespace Session

/-- Nothing has been loaded yet. -/
def start (lanes : Lanes) (generator : Generator) : Session lanes :=
  ⟨[], generator⟩

/-- Restarts the generator. -/
def reseed (session : Session lanes) (seed : UInt64) : Session lanes :=
  { session with generator := .ofSeed seed }

/-- Performs one operation. Only calls take the generator, and a handle without a circuit cannot be
called. -/
def perform (session : Session lanes) : Operation lanes → Session lanes
  | .load reservation length source =>
    match Circuit.read lanes reservation length source with
    | .error _ => session
    | .ok circuit => { session with circuits := session.circuits ++ [circuit] }
  | .call handle call =>
    match session.circuits[handle]? with
    | none => session
    | some circuit =>
      ⟨session.circuits.set handle ((call.drawingFrom session.generator).perform circuit).2,
        call.leaves circuit session.generator⟩
  | @Operation.split _ _ _ _ _ => session

/-- Performs operations in order. -/
def performAll (session : Session lanes) (operations : List (Operation lanes)) : Session lanes :=
  operations.foldl perform session

/-- The gates that an operation executes. -/
def executedBy (session : Session lanes) : Operation lanes → List Gate
  | .load _ _ _ => []
  | .call handle call =>
    match session.circuits[handle]? with
    | none => []
    | some circuit => call.executed circuit session.generator
  | @Operation.split _ _ _ _ _ => []

/-- The gates that operations execute, one after the other. -/
def executed (session : Session lanes) : List (Operation lanes) → List Gate
  | [] => []
  | operation :: later =>
    session.executedBy operation ++ (session.perform operation).executed later

variable {session : Session lanes}

theorem accounts_perform (session : Session lanes) (operation : Operation lanes) :
    Generator.Accounts lanes (session.executedBy operation) session.generator
      (session.perform operation).generator := by
  cases operation with
  | load reservation length source =>
    rw [perform]
    rcases Circuit.read lanes reservation length source with failure | circuit
    · exact .nil session.generator
    · exact .nil session.generator
  | call handle call =>
    rw [perform, executedBy]
    rcases session.circuits[handle]? with none | circuit
    · exact .nil session.generator
    · exact call.accounts circuit session.generator
  | split source writers => exact .nil session.generator

theorem accounts_performAll (session : Session lanes) (operations : List (Operation lanes)) :
    Generator.Accounts lanes (session.executed operations) session.generator
      (session.performAll operations).generator := by
  induction operations generalizing session with
  | nil => exact .nil session.generator
  | cons operation later ih => exact (session.accounts_perform operation).append (ih _)

/-- Every circuit of the session is sound. -/
def Sound (session : Session lanes) : Prop :=
  ∀ circuit ∈ session.circuits, ∃ gates, circuit.Sound gates

theorem Sound.perform (sound : session.Sound) (operation : Operation lanes) :
    (session.perform operation).Sound := by
  cases operation with
  | load reservation length source =>
    rw [Session.perform]
    rcases loaded : Circuit.read lanes reservation length source with failure | circuit
    · exact sound
    · intro other member
      rcases List.mem_append.mp member with earlier | last
      · exact sound other earlier
      · rw [List.mem_singleton.mp last]
        exact (Circuit.accepted_of_read loaded).sound
  | call handle call =>
    rw [Session.perform]
    rcases found : session.circuits[handle]? with none | circuit
    · exact sound
    · intro other member
      rcases List.mem_or_eq_of_mem_set member with earlier | changed
      · exact sound other earlier
      · obtain ⟨gates, before⟩ := sound circuit (List.mem_of_getElem? found)
        rw [changed]
        exact ⟨gates, before.of_sameProgram
          (before.perform_safe (call.drawingFrom session.generator)).1⟩
  | split source writers => exact sound

theorem Sound.performAll (sound : session.Sound) (operations : List (Operation lanes)) :
    (session.performAll operations).Sound := by
  induction operations generalizing session with
  | nil => exact sound
  | cons operation later ih => exact ih (sound.perform operation)

/-- Generators account for every draw. Whatever was done before, after a seed was set and in any
sequence of operations, exactly the words of the random gates executed since have been taken from
the seed's keystream, and the next draws are the words behind them; so they depend on that number
of gates only. Loads, replays and splits draw nothing. A call that is refused, or that cannot open
its trace file, executes nothing, a run that its recorder or its trace file stops executes the
gates up to the one whose record was refused, and any other run executes the program of its
circuit, whatever the instances, the batch, the recorder and the file are. -/
theorem generators_account_for_draws (lanes : Lanes) (generator : Generator)
    (earlier later : List (Operation lanes)) (seed : UInt64) :
    let seeded := ((start lanes generator).performAll earlier).reseed seed
    let last := seeded.performAll later
    let draws := Gate.draws (seeded.executed later)
    (last.generator.key = Keystream.keyOfSeed seed ∧
        last.generator.position = lanes.words * draws) ∧
      (∀ number, last.generator.drawn lanes number =
        Register.ofWords lanes ((List.range lanes.words).map fun index =>
          Keystream.word (Keystream.keyOfSeed seed) (lanes.words * (draws + number) + index))) ∧
      (∀ (otherGenerator : Generator) (otherEarlier otherLater : List (Operation lanes)),
        let other := ((start lanes otherGenerator).performAll otherEarlier).reseed seed
        Gate.draws (other.executed otherLater) = draws →
          (other.performAll otherLater).generator = last.generator) ∧
      (∀ reservation length source,
        (last.perform (.load reservation length source)).generator = last.generator) ∧
      (∀ handle source,
        (last.perform (.call handle (.replay source))).generator = last.generator) ∧
      (∀ (W : Type) [ByteSink W] (source : ByteSource) (writers : List W),
        (last.perform (.split source writers)).generator = last.generator) ∧
      ∀ circuit ∈ last.circuits, ∃ program : List Gate,
        circuit.gates = program.map .ok ∧ circuit.Executes program := by
  intro seeded last draws
  have accounts : ∀ (generator : Generator) (earlier later : List (Operation lanes)),
      let seeded := ((start lanes generator).performAll earlier).reseed seed
      Generator.Accounts lanes (seeded.executed later) (.ofSeed seed)
        (seeded.performAll later).generator :=
    fun _ _ later => accounts_performAll _ later
  have here := accounts generator earlier later
  have position : last.generator.position = lanes.words * draws := by
    rw [here.position]
    exact Nat.zero_add _
  refine ⟨⟨here.key, position⟩, ?_, ?_, ?_, ?_, ?_, ?_⟩
  · intro number
    rw [here.drawn_eq]
    simp only [Generator.ofSeed, Nat.zero_add]
    rfl
  · intro otherGenerator otherEarlier otherLater other same
    have there := accounts otherGenerator otherEarlier otherLater
    refine Generator.ext (there.key.trans here.key.symm) ?_
    rw [there.position, position, same]
    exact Nat.zero_add _
  · intro reservation length source
    exact (last.accounts_perform (.load reservation length source)).eq_of_nil
  · intro handle source
    have replayed := last.accounts_perform (.call handle (.replay source))
    have nothing : last.executedBy (.call handle (.replay source)) = [] := by
      rw [executedBy]
      rcases last.circuits[handle]? with none | circuit
      · rfl
      · rfl
    rw [nothing] at replayed
    exact replayed.eq_of_nil
  · intro W _ source writers
    exact (last.accounts_perform (.split source writers)).eq_of_nil
  · intro circuit member
    have nothing : (start lanes generator).Sound := nofun
    have seededSound : seeded.Sound := nothing.performAll earlier
    obtain ⟨gates, sound⟩ := seededSound.performAll later circuit member
    exact ⟨gates, sound.decoded, sound.executes⟩

end Session

end Bitslice
