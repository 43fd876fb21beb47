import Bitslice.Proofs.Canonical
import Bitslice.Proofs.Series
import Bitslice.Proofs.Sessions

/-!
# Execution does not depend on the layout

The same tables and gates have one descriptor in the fixed layout and one for
each pair of widths in the self-describing layout. A circuit that is loaded
from any of them is the one that was written (`Builder.Holds.circuit_of_read`),
and calls read only what these circuits share (`Circuit.Equivalent`). That
relation is carried through each call and with it through any sequence of
calls.
-/

namespace Bitslice

variable {lanes : Lanes}

namespace Builder

variable {builder : Builder} {additions : List Addition}

/-- The descriptor of these tables and gates in a layout, from additions in some order. -/
def Emits (layout : Layout) (memory : UInt64) (widths : Widths) (inputs outputs : List UInt64)
    (gates : List Gate) (bytes : Bytes) : Prop :=
  ∃ start additions builder, ofLayout layout memory widths = .ok start ∧
    start.addAll additions = (.ok (), builder) ∧ Addition.inputs additions = inputs ∧
    Addition.outputs additions = outputs ∧ Addition.gates additions = gates ∧
    builder.encode = .ok bytes

/-- A sound circuit with the text of a builder shows that the counts are exact: none is above the
true one, and together they make up the same length. -/
theorem Holds.counted_of_text (holds : builder.Holds additions) {circuit : Circuit lanes}
    {gates : List Gate} (sound : circuit.Sound gates)
    (carried : circuit.header.Carried builder.layout)
    (text : circuit.text builder.layout = builder.text) :
    circuit.header = builder.header ∧ builder.Counted := by
  have kept : builder.header.Carried builder.layout := holds.carried
  obtain ⟨header, bodies⟩ := Header.text_inj carried kept text
  have widths : circuit.header.widths = builder.widths := congrArg Header.widths header
  have inputs : circuit.inputs.length = builder.inputs.size % UInt64.size := by
    rw [sound.inputsCounted, header]
    exact UInt64.toNat_ofNat
  have outputs : circuit.outputs.length = builder.outputs.size % UInt64.size := by
    rw [sound.outputsCounted, header]
    exact UInt64.toNat_ofNat
  have stream : circuit.stream.length = builder.stream.size % UInt64.size := by
    rw [sound.streamSized, header]
    exact UInt64.toNat_ofNat
  rw [widths] at bodies
  have lengths := congrArg List.length bodies
  simp only [List.length_append, Field.length_allDigits, Array.length_toList] at lengths
  have inputsBelow : circuit.inputs.length * builder.widths.address ≤
      builder.inputs.size * builder.widths.address := by
    rw [inputs]
    exact Nat.mul_le_mul_right _ (Nat.mod_le _ _)
  have outputsBelow : circuit.outputs.length * builder.widths.address ≤
      builder.outputs.size * builder.widths.address := by
    rw [outputs]
    exact Nat.mul_le_mul_right _ (Nat.mod_le _ _)
  have streamBelow : circuit.stream.length ≤ builder.stream.size := by
    rw [stream]
    exact Nat.mod_le _ _
  have inputsExact : circuit.inputs.length = builder.inputs.size :=
    Nat.eq_of_mul_eq_mul_right builder.widths.address_bounded.1 (by omega)
  have outputsExact : circuit.outputs.length = builder.outputs.size :=
    Nat.eq_of_mul_eq_mul_right builder.widths.address_bounded.1 (by omega)
  have streams : circuit.stream = builder.stream.toList := by
    refine (List.append_inj (List.append_inj bodies ?_).2 ?_).2
    · simp [inputsExact]
    · simp [outputsExact]
  have gatesExact : gates.length = builder.gateCount := by
    have decoded := holds.decoded
    rw [← streams, ← widths] at decoded
    have same := congrArg List.length (sound.decoded.symm.trans decoded)
    rw [holds.gatesCounted]
    simpa only [List.length_map] using same
  refine ⟨header, ?_, ?_, ?_, ?_⟩
  · rw [← header, ← sound.inputsCounted, inputsExact]
  · rw [← header, ← sound.outputsCounted, outputsExact]
  · rw [← header, ← sound.gatesCounted, gatesExact]
  · rw [← header, ← sound.streamSized, streams, Array.length_toList]

/-- Whatever is loaded from the text of a builder, in its own layout, is what it holds. -/
theorem Holds.circuit_of_read (holds : builder.Holds additions) {reservation : Reservation}
    {length : Option UInt64} {source : ByteSource} {circuit : Circuit lanes}
    (loaded : Circuit.read lanes reservation length source = .ok circuit)
    (served : source.contents = builder.text)
    (announced : Layout.announced source.contents = builder.layout) :
    circuit = builder.circuit lanes := by
  have accepted := Circuit.accepted_of_read loaded
  obtain ⟨gates, sound⟩ := accepted.sound
  have carried := accepted.carried
  have whole := accepted.whole
  have lengthAgrees := accepted.lengthAgrees
  have granted := accepted.granted
  rw [announced] at carried whole lengthAgrees
  obtain ⟨header, counted⟩ :=
    holds.counted_of_text sound carried (whole.symm.trans served)
  rw [header] at lengthAgrees granted
  have checked : builder.header.check = .ok () := by
    rw [← header]
    exact sound.checked
  have same : Circuit.Accepted reservation length source (builder.circuit lanes) := {
    sound := ⟨_, holds.sound_of_counted counted checked⟩
    cleared := rfl
    carried := by rw [announced]; exact holds.carried
    whole := by rw [announced, text_circuit]; exact served
    ended := accepted.ended
    lengthAgrees := by rw [announced]; exact lengthAgrees
    granted }
  exact Except.ok.inj (loaded.symm.trans (Circuit.read_of_accepted same))

end Builder

namespace Circuit

/-- Circuits with the same tables, gates and memory, in whatever records the gates are stored. -/
structure Equivalent (left right : Circuit lanes) : Prop where
  inputCount : right.header.inputCount = left.header.inputCount
  outputCount : right.header.outputCount = left.header.outputCount
  gateCount : right.header.gateCount = left.header.gateCount
  memory : right.header.memory = left.header.memory
  inputs : right.inputs = left.inputs
  outputs : right.outputs = left.outputs
  gates : right.gates = left.gates
  ram : right.ram = left.ram

variable {R : Type} {left right : Circuit lanes}

/-- A call that did the same on both circuits. -/
structure RunsAgree (first second : Outcome lanes R) : Prop where
  result : second.result = first.result
  outputs : second.outputs = first.outputs
  recorder : second.recorder = first.recorder
  generator : second.generator = first.generator
  circuits : Equivalent first.circuit second.circuit

/-- A series that did the same on both circuits. -/
structure SeriesAgree {A : Type} (first second : SeriesOutcome lanes A R) : Prop where
  result : second.result = first.result
  generator : second.generator = first.generator
  supplier : second.supplier = first.supplier
  warnings : second.warnings = first.warnings
  circuits : Equivalent first.circuit second.circuit

/-- A call with a trace file that did the same on both circuits. -/
structure FileRunsAgree (first second : FileOutcome lanes) : Prop where
  runs : RunsAgree first.outcome second.outcome
  tree : second.tree = first.tree

section Calls

variable [Recorder lanes R] (same : Equivalent left right)
include same

theorem Equivalent.inputBytes : right.header.inputBytes = left.header.inputBytes := by
  rw [Header.inputBytes, Header.inputBytes, same.inputCount]

theorem Equivalent.outputBytes : right.header.outputBytes = left.header.outputBytes := by
  rw [Header.outputBytes, Header.outputBytes, same.outputCount]

theorem Equivalent.checkArguments : right.checkArguments = left.checkArguments := by
  ext1 inputLength
  unfold Circuit.checkArguments
  rw [same.inputBytes, same.outputBytes]

theorem Equivalent.run (inputs outputs : Bytes) (recorder : R) (batch : Nat)
    (generator : Generator) :
    RunsAgree (left.run inputs outputs recorder batch generator)
      (right.run inputs outputs recorder batch generator) := by
  unfold Circuit.run
  rw [same.checkArguments]
  rcases left.checkArguments inputs.length outputs.length batch with failure | ⟨⟩
  · exact ⟨rfl, rfl, rfl, rfl, same⟩
  · simp only
    rw [same.inputs, same.outputs, same.gates, same.ram, same.inputBytes, same.outputBytes]
    rcases applyGates (left.ram.cleared.pack left.inputs inputs left.header.inputBytes batch)
      recorder generator left.gates with ⟨failure | ⟨⟩, progress⟩
    · exact ⟨rfl, rfl, rfl, rfl, { same with inputs := rfl, outputs := rfl, ram := rfl }⟩
    · exact ⟨rfl, rfl, rfl, rfl, { same with inputs := rfl, outputs := rfl, ram := rfl }⟩

theorem Equivalent.runToFile (inputs outputs : Bytes) (path : Option String) (batch : Nat)
    (generator : Generator) (tree : FileTree) :
    FileRunsAgree (left.runToFile inputs outputs path batch generator tree)
      (right.runToFile inputs outputs path batch generator tree) := by
  unfold Circuit.runToFile
  rw [same.checkArguments]
  split
  · exact ⟨same.run .., rfl⟩
  · next name given =>
    split
    · exact ⟨⟨rfl, rfl, rfl, rfl, same⟩, rfl⟩
    · split
      · exact ⟨⟨rfl, rfl, rfl, rfl, same⟩, rfl⟩
      · next created made =>
        have runs := same.run inputs outputs
          (some (StoredTrace.start lanes (FileWriter.start (created.deviceAt name)))) batch
          generator
        refine ⟨runs, ?_⟩
        simp only
        rw [runs.recorder]

/-- The induction follows the batches; both circuits go on with what the last batch left. -/
theorem Equivalent.runSeriesFrom {A : Type} (supply : RecorderSupplier A R) (generator : Generator)
    (supplier : A) (number : Nat) (buffer outputs : Bytes) (done : Array Bytes) (kept : Array R)
    (instances : List Bytes) :
    SeriesAgree
      (Circuit.runSeriesFrom supply left generator supplier number buffer outputs done kept
        instances)
      (Circuit.runSeriesFrom supply right generator supplier number buffer outputs done kept
        instances) := by
  induction instances using lanes.batch_induction
    generalizing left right generator supplier number buffer outputs done kept with
  | nil =>
    rw [runSeriesFrom_nil, runSeriesFrom_nil]
    exact ⟨rfl, rfl, rfl, rfl, same⟩
  | batch instances empty ih =>
    have rows : right.firstRows instances = left.firstRows instances := by
      rw [firstRows, firstRows, same.inputBytes]
    rcases answered : supply supplier number with ⟨failure | recorder, next⟩
    · rw [runSeriesFrom_of_unsupplied empty answered, runSeriesFrom_of_unsupplied empty answered]
      exact ⟨rfl, rfl, rfl, rfl, same⟩
    · have runs := same.run (refill buffer (left.firstRows instances)) outputs recorder
        (instances.take lanes.count).length generator
      generalize ran : left.run (refill buffer (left.firstRows instances)) outputs recorder
        (instances.take lanes.count).length generator = first at runs
      generalize ranToo : right.run (refill buffer (left.firstRows instances)) outputs recorder
        (instances.take lanes.count).length generator = second at runs
      rw [← rows] at ranToo
      rcases answer : first.result with failure | ⟨⟩
      · rw [runSeriesFrom_of_failed empty answered ran answer,
          runSeriesFrom_of_failed empty answered ranToo (runs.result.trans answer)]
        exact ⟨rfl, runs.generator, rfl, rfl, runs.circuits⟩
      · rw [runSeriesFrom_of_batch empty answered ran answer,
          runSeriesFrom_of_batch empty answered ranToo (runs.result.trans answer), rows,
          runs.outputs, runs.generator, runs.recorder, runs.circuits.outputBytes]
        exact ih runs.circuits ..

theorem Equivalent.runSeries {A : Type} (instances : List Bytes) (generator : Generator)
    (supply : RecorderSupplier A R) (supplier : A) :
    SeriesAgree (left.runSeries instances generator supply supplier)
      (right.runSeries instances generator supply supplier) := by
  unfold Circuit.runSeries
  simp only
  rw [same.inputBytes, same.outputBytes]
  split
  · exact ⟨rfl, rfl, rfl, rfl, same⟩
  · have series := same.runSeriesFrom supply generator supplier 0
      (List.replicate (lanes.count * left.header.inputBytes) 0)
      (List.replicate (lanes.count * left.header.outputBytes) 0) #[] #[] instances
    exact ⟨series.result, series.generator, series.supplier, rfl, series.circuits⟩

theorem Equivalent.replay (source : ByteSource) :
    Trace.replay right source = Trace.replay left source := by
  rw [Trace.replay, Trace.replay, same.gates]

theorem Equivalent.replayItems (items : List (Except IoFailure (Register lanes))) :
    Trace.replayItems right items = Trace.replayItems left items := by
  rw [Trace.replayItems, Trace.replayItems, same.gates]

/-- Any one call: the same failure or none, and circuits that are still equivalent. -/
theorem Equivalent.perform (call : Call lanes) :
    (call.perform right).1 = (call.perform left).1 ∧
      Equivalent (call.perform left).2 (call.perform right).2 := by
  cases call with
  | run inputs outputs recorder batch generator =>
    have runs := same.run inputs outputs recorder batch generator
    exact ⟨congrArg RunFailure.ofResult runs.result, runs.circuits⟩
  | runToFile inputs outputs path batch generator tree =>
    have runs := (same.runToFile inputs outputs path batch generator tree).runs
    exact ⟨congrArg RunFailure.ofResult runs.result, runs.circuits⟩
  | runSeriesUntraced instances generator =>
    have series := same.runSeries instances generator
      (fun supplier _ => (.ok (none : Option (Untraced lanes)), supplier)) ()
    exact ⟨congrArg RunFailure.ofResult series.result, series.circuits⟩
  | runSeries instances generator supply supplier =>
    have series := same.runSeries instances generator supply supplier
    exact ⟨congrArg RunFailure.ofResult series.result, series.circuits⟩
  | replay source => exact ⟨congrArg RunFailure.ofResult (same.replay source), same⟩

end Calls

/-- The circuit after calls in order. -/
def after (circuit : Circuit lanes) (calls : List (Call lanes)) : Circuit lanes :=
  calls.foldl (fun current call => (call.perform current).2) circuit

theorem Equivalent.after (same : Equivalent left right) (calls : List (Call lanes)) :
    Equivalent (left.after calls) (right.after calls) := by
  induction calls generalizing left right with
  | nil => exact same
  | cons call later ih => exact ih (same.perform call).2

/-- A freshly loaded circuit with these tables and gates. -/
structure MadeOf (circuit : Circuit lanes) (memory : UInt64) (inputs outputs : List UInt64)
    (gates : List Gate) : Prop where
  inputCount : circuit.header.inputCount = UInt64.ofNat inputs.length
  outputCount : circuit.header.outputCount = UInt64.ofNat outputs.length
  gateCount : circuit.header.gateCount = UInt64.ofNat gates.length
  ram : circuit.ram = Ram.zeros lanes memory.toNat
  memory : circuit.header.memory = memory
  inputs : circuit.inputs = inputs
  outputs : circuit.outputs = outputs
  gates : circuit.gates = gates.map (fun gate => .ok gate.normalized)

theorem MadeOf.equivalent {memory : UInt64} {inputs outputs : List UInt64} {gates : List Gate}
    (first : left.MadeOf memory inputs outputs gates)
    (second : right.MadeOf memory inputs outputs gates) : Equivalent left right where
  inputCount := second.inputCount.trans first.inputCount.symm
  outputCount := second.outputCount.trans first.outputCount.symm
  gateCount := second.gateCount.trans first.gateCount.symm
  memory := second.memory.trans first.memory.symm
  inputs := second.inputs.trans first.inputs.symm
  outputs := second.outputs.trans first.outputs.symm
  gates := second.gates.trans first.gates.symm
  ram := second.ram.trans first.ram.symm

end Circuit

/-- Loading a descriptor in the layout it was written in gives back its parts. -/
theorem Builder.Emits.madeOf {layout : Layout} {memory : UInt64} {widths : Widths}
    {inputs outputs : List UInt64} {gates : List Gate} {bytes : Bytes}
    (emitted : Emits layout memory widths inputs outputs gates bytes)
    (announced : Layout.announced bytes = layout) {reservation : Reservation}
    {length : Option UInt64} {source : ByteSource} (served : source.contents = bytes)
    {circuit : Circuit lanes}
    (loaded : Circuit.read lanes reservation length source = .ok circuit) :
    circuit.MadeOf memory inputs outputs gates := by
  obtain ⟨start, additions, builder, started, added, rfl, rfl, rfl, encoded⟩ := emitted
  obtain ⟨nothing, sameLayout, sameMemory⟩ := holds_of_ofLayout started
  obtain ⟨holds, frame⟩ := nothing.of_addAll added
  rw [List.nil_append] at holds
  obtain rfl : builder.text = bytes := Except.ok.inj (holds.encode.symm.trans encoded)
  have layouts : builder.layout = layout := frame.layout.trans sameLayout
  have memories : builder.memory = memory := frame.memory.trans sameMemory
  obtain rfl := holds.circuit_of_read loaded served (by rw [served, announced, layouts])
  exact {
    inputCount := by rw [← holds.inputsHeld, Array.length_toList]; rfl
    outputCount := by rw [← holds.outputsHeld, Array.length_toList]; rfl
    gateCount := by rw [← holds.gatesCounted]; rfl
    memory := memories
    inputs := holds.inputsHeld
    outputs := holds.outputsHeld
    gates := by
      rw [Circuit.gates]
      exact holds.decoded.trans (List.map_map ..)
    ram := by rw [circuit, memories] }

namespace Circuit

/-- Execution depends neither on the layout nor on the widths. Two descriptors of the same memory,
tables and gates, each loaded in the layout it was written in, give circuits with these tables and
gates; and after the same calls, every further call does the same on both: it has the same result,
outputs, memory, recorder, files and generator. -/
theorem layouts_agree {leftLayout rightLayout : Layout} {memory : UInt64}
    {leftWidths rightWidths : Widths} {inputs outputs : List UInt64} {gates : List Gate}
    {leftBytes rightBytes : Bytes}
    (leftEmitted : Builder.Emits leftLayout memory leftWidths inputs outputs gates leftBytes)
    (rightEmitted : Builder.Emits rightLayout memory rightWidths inputs outputs gates rightBytes)
    (leftAnnounced : Layout.announced leftBytes = leftLayout)
    (rightAnnounced : Layout.announced rightBytes = rightLayout)
    {leftReservation rightReservation : Reservation} {leftLength rightLength : Option UInt64}
    {leftSource rightSource : ByteSource} (leftServed : leftSource.contents = leftBytes)
    (rightServed : rightSource.contents = rightBytes) {left right : Circuit lanes}
    (leftLoaded : read lanes leftReservation leftLength leftSource = .ok left)
    (rightLoaded : read lanes rightReservation rightLength rightSource = .ok right) :
    left.MadeOf memory inputs outputs gates ∧ right.MadeOf memory inputs outputs gates ∧
      ∀ calls : List (Call lanes),
        let first := left.after calls
        let second := right.after calls
        Equivalent first second ∧
          (∀ (R : Type) [Recorder lanes R] (inputs outputs : Bytes) (recorder : R) (batch : Nat)
              (generator : Generator),
            RunsAgree (first.run inputs outputs recorder batch generator)
              (second.run inputs outputs recorder batch generator)) ∧
          (∀ (inputs outputs : Bytes) (path : Option String) (batch : Nat) (generator : Generator)
              (tree : FileTree),
            FileRunsAgree (first.runToFile inputs outputs path batch generator tree)
              (second.runToFile inputs outputs path batch generator tree)) ∧
          (∀ (instances : List Bytes) (generator : Generator),
            SeriesAgree (first.runSeriesUntraced instances generator)
              (second.runSeriesUntraced instances generator)) ∧
          (∀ (A R : Type) [Recorder lanes R] (instances : List Bytes) (generator : Generator)
              (supply : RecorderSupplier A R) (supplier : A),
            SeriesAgree (first.runSeries instances generator supply supplier)
              (second.runSeries instances generator supply supplier)) ∧
          (∀ source, Trace.replay second source = Trace.replay first source) ∧
          ∀ items, Trace.replayItems second items = Trace.replayItems first items := by
  have leftMade := leftEmitted.madeOf leftAnnounced leftServed leftLoaded
  have rightMade := rightEmitted.madeOf rightAnnounced rightServed rightLoaded
  refine ⟨leftMade, rightMade, ?_⟩
  intro calls first second
  have same : Equivalent first second := (leftMade.equivalent rightMade).after calls
  refine ⟨same, ?_, same.runToFile, ?_, ?_, same.replay, same.replayItems⟩
  · intro R _ inputs outputs recorder batch generator
    exact same.run inputs outputs recorder batch generator
  · intro instances generator
    exact same.runSeries instances generator _ ()
  · intro A R _ instances generator supply supplier
    exact same.runSeries instances generator supply supplier

/-- Tags of three bytes and addresses of four. -/
def unevenWidths : Widths :=
  ⟨3, 4, by decide, by decide⟩

/-- The bytes of the inverter in the self-describing layout with uneven widths. -/
def inverterDescribed : Bytes :=
  Layout.magic ++ [1, 3, 4, 0] ++ [1, 0, 0, 0, 0, 0, 0, 0] ++ [1, 0, 0, 0, 0, 0, 0, 0] ++
    [1, 0, 0, 0, 0, 0, 0, 0] ++ [11, 0, 0, 0, 0, 0, 0, 0] ++ [2, 0, 0, 0, 0, 0, 0, 0] ++
    [0, 0, 0, 0] ++ [1, 0, 0, 0] ++ [4, 0, 0] ++ [0, 0, 0, 0] ++ [1, 0, 0, 0]

theorem inverter_in_two_layouts :
    ∃ left right : Circuit .eight,
      read .eight Reservation.standard none (ByteSource.ofBytes inverter) = .ok left ∧
        read .eight Reservation.standard none (ByteSource.ofBytes inverterDescribed) = .ok right ∧
        left.stream ≠ right.stream ∧ right.gates = left.gates ∧
        RunsAgree (left.run [128] [0] (TraceList.empty .eight) 1 (Generator.ofSeed 1))
          (right.run [128] [0] (TraceList.empty .eight) 1 (Generator.ofSeed 1)) := by
  have loaded : read .eight Reservation.standard none (ByteSource.ofBytes inverterDescribed) =
      .ok ⟨⟨1, 1, 1, 11, 2, unevenWidths⟩, [0], [1], [4, 0, 0, 0, 0, 0, 0, 1, 0, 0, 0],
        #[0, 0]⟩ := by
    cbv
  have leftEmitted : Builder.Emits .fixed 2 Widths.fixed [0] [1] [⟨.not, 0, 7, 1⟩] inverter :=
    ⟨_, [.input 0, .output 1, .gate ⟨.not, 0, 7, 1⟩], _, rfl, rfl, rfl, rfl, rfl, rfl⟩
  have rightEmitted : Builder.Emits .selfDescribing 2 unevenWidths [0] [1] [⟨.not, 0, 7, 1⟩]
      inverterDescribed :=
    ⟨_, [.gate ⟨.not, 0, 7, 1⟩, .output 1, .input 0], _, rfl, rfl, rfl, rfl, rfl, by cbv⟩
  obtain ⟨leftMade, rightMade, agree⟩ := layouts_agree leftEmitted rightEmitted (by decide)
    (by decide) (ByteSource.contents_ofBytes _) (ByteSource.contents_ofBytes _)
    (read_inverter .eight) loaded
  obtain ⟨-, runs, -⟩ := agree []
  exact ⟨_, _, read_inverter .eight, loaded, by decide,
    rightMade.gates.trans leftMade.gates.symm, runs _ _ _ _ _ _⟩

end Circuit

end Bitslice
