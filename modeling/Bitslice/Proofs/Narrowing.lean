import Bitslice.Proofs.Accounting

/-!
# Narrow registers agree

Registers of at most thirty-two lanes are drawn from one random word each, and
every lane takes its own bit of that word (`Generator.lane_drawn`). Circuits
that were loaded from the same bytes on such registers therefore use up their
generators alike, and as long as both run the same batches, no lane that both
of them have can tell which one it belongs to.
-/

namespace Bitslice

namespace Lanes

/-- Registers of these lanes are drawn from a single word. -/
def Narrow (lanes : Lanes) : Prop :=
  lanes ∈ [one, eight, sixteen, thirtyTwo]

instance (lanes : Lanes) : Decidable lanes.Narrow :=
  inferInstanceAs (Decidable (lanes ∈ [one, eight, sixteen, thirtyTwo]))

theorem Narrow.words_eq {lanes : Lanes} (narrow : lanes.Narrow) : lanes.words = 1 := by
  revert narrow
  cases lanes <;> decide

end Lanes

namespace Generator

/-- Each lane of a word made into a register is the bit of that number. -/
theorem lane_ofWords_singleton {lanes : Lanes} (word : UInt32) {lane : Nat}
    (inside : lane < lanes.count) :
    (Register.ofWords lanes [word]).lane lane = word.toNat.testBit lane := by
  rw [Register.lane, Nat.mod_eq_of_lt inside, Register.ofWords, List.foldr_cons, List.foldr_nil,
    Nat.mul_zero, Nat.add_zero, BitVec.getLsbD_ofNat, decide_eq_true inside, Bool.true_and]

/-- A lane of a draw is that bit of the word the draw takes. -/
theorem lane_drawn {lanes : Lanes} (narrow : lanes.Narrow) (generator : Generator) (number : Nat)
    {lane : Nat} (inside : lane < lanes.count) :
    (generator.drawn lanes number).lane lane =
      (Keystream.word generator.key (generator.position + number)).toNat.testBit lane := by
  have drawn : generator.drawn lanes number = _ := (Accounts.nil generator).drawn_eq number
  rw [narrow.words_eq, Gate.draws, List.countP_nil, Nat.zero_add, Nat.one_mul] at drawn
  rw [drawn]
  exact lane_ofWords_singleton _ inside

/-- Draws move the generator alike. -/
theorem after_narrow {left right : Lanes} (leftNarrow : left.Narrow) (rightNarrow : right.Narrow)
    (generator : Generator) (draws : Nat) :
    generator.after left draws = generator.after right draws := by
  obtain ⟨leftKey, leftPosition⟩ := @drawMany_eq left draws generator
  obtain ⟨rightKey, rightPosition⟩ := @drawMany_eq right draws generator
  rw [leftNarrow.words_eq] at leftPosition
  rw [rightNarrow.words_eq] at rightPosition
  exact Generator.ext (leftKey.trans rightKey.symm) (leftPosition.trans rightPosition.symm)

end Generator

namespace Circuit

/-- The same program, on registers of different sizes perhaps. -/
structure Counterpart {leftLanes rightLanes : Lanes} (left : Circuit leftLanes)
    (right : Circuit rightLanes) : Prop where
  header : right.header = left.header
  inputs : right.inputs = left.inputs
  outputs : right.outputs = left.outputs
  stream : right.stream = left.stream

/-- The trace of a run: what a recorder in memory keeps of it. -/
def traceOfRun {lanes : Lanes} (circuit : Circuit lanes) (inputs outputs : Bytes) (batch : Nat)
    (generator : Generator) : List (Register lanes) :=
  (circuit.run inputs outputs (TraceList.empty lanes) batch generator).recorder.records.toList

section Pair

variable {leftLanes rightLanes : Lanes}

/-- Two runs of a batch agree in all lanes that both have. -/
structure Agree {R S : Type} (batch : Nat) (leftTrace : List (Register leftLanes))
    (rightTrace : List (Register rightLanes)) (left : Outcome leftLanes R)
    (right : Outcome rightLanes S) : Prop where
  rows : left.outputs.take (batch * left.circuit.header.outputBytes) =
    right.outputs.take (batch * right.circuit.header.outputBytes)
  records : ∀ lane, lane < leftLanes.count → lane < rightLanes.count →
    leftTrace.map (·.lane lane) = rightTrace.map (·.lane lane)
  cellsCounted : left.circuit.ram.size = right.circuit.ram.size
  cells : ∀ lane, lane < leftLanes.count → lane < rightLanes.count → ∀ address : UInt64,
    (left.circuit.ram.cell address).lane lane = (right.circuit.ram.cell address).lane lane
  generator : left.generator = right.generator

/-- Two circuits and their generators after running the same batches from the same seed, each
successfully and with recorders and output buffers of its own. -/
inductive RunTogether (left : Circuit leftLanes) (right : Circuit rightLanes) (seed : UInt64) :
    Circuit leftLanes → Generator → Circuit rightLanes → Generator → Prop where
  | start : RunTogether left right seed left (.ofSeed seed) right (.ofSeed seed)
  | run {leftNow : Circuit leftLanes} {leftGenerator : Generator} {rightNow : Circuit rightLanes}
      {rightGenerator : Generator}
      (prior : RunTogether left right seed leftNow leftGenerator rightNow rightGenerator)
      {R S : Type} [Recorder leftLanes R] [Recorder rightLanes S] (inputs : Bytes)
      (leftOutputs rightOutputs : Bytes) (leftRecorder : R) (rightRecorder : S) (batch : Nat)
      (leftSucceeded :
        (leftNow.run inputs leftOutputs leftRecorder batch leftGenerator).result = .ok ())
      (rightSucceeded :
        (rightNow.run inputs rightOutputs rightRecorder batch rightGenerator).result = .ok ()) :
      RunTogether left right seed
        (leftNow.run inputs leftOutputs leftRecorder batch leftGenerator).circuit
        (leftNow.run inputs leftOutputs leftRecorder batch leftGenerator).generator
        (rightNow.run inputs rightOutputs rightRecorder batch rightGenerator).circuit
        (rightNow.run inputs rightOutputs rightRecorder batch rightGenerator).generator

variable {left : Circuit leftLanes} {right : Circuit rightLanes} {gates : List Gate}
  {inputs leftOutputs rightOutputs : Bytes} {batch : Nat} {generator : Generator}

/-- Counterparts have the same gates. -/
theorem Sound.counterpart {rightGates : List Gate} (leftSound : left.Sound gates)
    (counterpart : left.Counterpart right) (rightSound : right.Sound rightGates) :
    right.Sound gates := by
  have same : right.gates = left.gates := by
    rw [Circuit.gates, Circuit.gates, counterpart.header, counterpart.stream]
  rw [leftSound.decoded, rightSound.decoded] at same
  obtain rfl := (List.map_inj_right fun _ _ => Except.ok.inj).mp same
  exact rightSound

theorem Counterpart.of_sameProgram (counterpart : left.Counterpart right)
    {leftLater : Circuit leftLanes} {rightLater : Circuit rightLanes}
    (leftSame : SameProgram left leftLater) (rightSame : SameProgram right rightLater) :
    leftLater.Counterpart rightLater where
  header := by rw [leftSame.header, rightSame.header, counterpart.header]
  inputs := by rw [leftSame.inputs, rightSame.inputs, counterpart.inputs]
  outputs := by rw [leftSame.outputs, rightSame.outputs, counterpart.outputs]
  stream := by rw [leftSame.stream, rightSame.stream, counterpart.stream]

/-- A batch that both can hold is accepted by both or by none. -/
theorem Counterpart.accepts_iff (counterpart : left.Counterpart right)
    (leftFits : batch ≤ leftLanes.count) (rightFits : batch ≤ rightLanes.count)
    {outputs : Bytes} :
    left.Accepts inputs outputs batch ↔ right.Accepts inputs outputs batch := by
  have header := counterpart.header
  constructor
  · rintro ⟨nonempty, -, inputsHeld, outputsHeld⟩
    exact ⟨nonempty, rightFits, header ▸ inputsHeld, header ▸ outputsHeld⟩
  · rintro ⟨nonempty, -, inputsHeld, outputsHeld⟩
    exact ⟨nonempty, leftFits, header ▸ inputsHeld, header ▸ outputsHeld⟩

section Narrow

variable (leftNarrow : leftLanes.Narrow) (rightNarrow : rightLanes.Narrow)
  (counterpart : left.Counterpart right)

include leftNarrow rightNarrow counterpart

/-- The instance in a lane that both have is evaluated alike: on the same wires, and with the same
bits of the same words. -/
theorem Counterpart.evaluateLane_eq {lane : Nat} (leftInside : lane < leftLanes.count)
    (rightInside : lane < rightLanes.count) :
    left.evaluateLane gates inputs batch generator lane =
      right.evaluateLane gates inputs batch generator lane := by
  have fresh : (fun number => (generator.drawn leftLanes number).lane lane) =
      fun number => (generator.drawn rightLanes number).lane lane := by
    funext number
    rw [generator.lane_drawn leftNarrow number leftInside,
      generator.lane_drawn rightNarrow number rightInside]
  rw [evaluateLane, evaluateLane, fresh, counterpart.header, counterpart.inputs]

variable (leftSound : left.Sound gates) (rightSound : right.Sound gates)
  (leftAccepts : left.Accepts inputs leftOutputs batch)
  (rightAccepts : right.Accepts inputs rightOutputs batch)

include leftSound rightSound leftAccepts rightAccepts

/-- The computations agree in a lane that both have. -/
theorem Counterpart.lane_eq {lane : Nat} (leftInside : lane < leftLanes.count)
    (rightInside : lane < rightLanes.count) :
    (left.computation gates inputs batch generator).lane lane =
      (right.computation gates inputs batch generator).lane lane := by
  rw [leftSound.lane_computation leftAccepts leftInside,
    rightSound.lane_computation rightAccepts rightInside,
    counterpart.evaluateLane_eq leftNarrow rightNarrow leftInside rightInside]

/-- The rows of the batch are read off lanes that both have. -/
theorem Counterpart.rows_eq :
    (left.computation gates inputs batch generator).ram.outputRows left.outputs
        left.header.outputBytes batch =
      (right.computation gates inputs batch generator).ram.outputRows right.outputs
        right.header.outputBytes batch := by
  rw [Ram.outputRows, Ram.outputRows, counterpart.header, counterpart.outputs]
  apply List.map_congr_left
  intro lane listed
  have occupied : lane < batch := List.mem_range.mp listed
  have same : (left.computation gates inputs batch generator).lane lane =
      (right.computation gates inputs batch generator).lane lane :=
    counterpart.lane_eq leftNarrow rightNarrow leftSound rightSound leftAccepts rightAccepts
      (Nat.lt_of_lt_of_le occupied leftAccepts.fits)
      (Nat.lt_of_lt_of_le occupied rightAccepts.fits)
  have cells := congrArg Evaluation.cells same
  refine congrArg _ (List.map_congr_left ?_)
  intro address _
  exact congrFun cells address

end Narrow

/-- One batch: successful runs of counterparts from the same generator agree. -/
theorem Counterpart.agree_run (leftNarrow : leftLanes.Narrow) (rightNarrow : rightLanes.Narrow)
    (counterpart : left.Counterpart right) (leftSound : left.Sound gates)
    (rightSound : right.Sound gates) {R S : Type} [Recorder leftLanes R] [Recorder rightLanes S]
    {leftRecorder : R} {rightRecorder : S}
    (leftSucceeded : (left.run inputs leftOutputs leftRecorder batch generator).result = .ok ())
    (rightSucceeded :
      (right.run inputs rightOutputs rightRecorder batch generator).result = .ok ()) :
    Agree batch (left.computation gates inputs batch generator).trace
      (right.computation gates inputs batch generator).trace
      (left.run inputs leftOutputs leftRecorder batch generator)
      (right.run inputs rightOutputs rightRecorder batch generator) := by
  obtain ⟨leftAccepts, leftKeeps⟩ := leftSound.keep_of_run leftSucceeded
  obtain ⟨rightAccepts, rightKeeps⟩ := rightSound.keep_of_run rightSucceeded
  have lanewise : ∀ lane, lane < leftLanes.count → lane < rightLanes.count →
      (left.computation gates inputs batch generator).lane lane =
        (right.computation gates inputs batch generator).lane lane := fun lane =>
    counterpart.lane_eq leftNarrow rightNarrow leftSound rightSound leftAccepts rightAccepts
  rw [leftSound.run_of_keep leftAccepts leftKeeps, rightSound.run_of_keep rightAccepts rightKeeps]
  constructor
  case rows =>
    simp only
    rw [Ram.take_unpack _ leftAccepts.outputsHeld, Ram.take_unpack _ rightAccepts.outputsHeld,
      counterpart.rows_eq leftNarrow rightNarrow leftSound rightSound leftAccepts rightAccepts]
  case records =>
    intro lane leftInside rightInside
    exact congrArg Evaluation.written (lanewise lane leftInside rightInside)
  case cellsCounted =>
    simp only [computation, Gate.size_compute, size_packed, leftSound.cellsCounted,
      rightSound.cellsCounted, counterpart.header]
  case cells =>
    intro lane leftInside rightInside address
    exact congrFun (congrArg Evaluation.cells (lanewise lane leftInside rightInside)) address
  case generator =>
    simp only [computation, Gate.generator_compute]
    exact generator.after_narrow leftNarrow rightNarrow _

/-- The trace of a run is what any recorder has kept that let it succeed. -/
theorem Sound.traceOfRun_eq {lanes : Lanes} {circuit : Circuit lanes} (sound : circuit.Sound gates)
    {outputs : Bytes} (accepts : circuit.Accepts inputs outputs batch) :
    circuit.traceOfRun inputs outputs batch generator =
      (circuit.computation gates inputs batch generator).trace :=
  sound.records_of_run (sound.run_of_reliable accepts (Recorder.reliable_traceList _))

/-- Running together changes neither program, and the generators stay the same. -/
theorem RunTogether.invariant (leftNarrow : leftLanes.Narrow) (rightNarrow : rightLanes.Narrow)
    (counterpart : left.Counterpart right) (leftSound : left.Sound gates)
    (rightSound : right.Sound gates) {seed : UInt64} {leftNow : Circuit leftLanes}
    {rightNow : Circuit rightLanes} {leftGenerator rightGenerator : Generator}
    (reached : RunTogether left right seed leftNow leftGenerator rightNow rightGenerator) :
    SameProgram left leftNow ∧ SameProgram right rightNow ∧ leftGenerator = rightGenerator := by
  induction reached with
  | start => exact ⟨.refl left, .refl right, rfl⟩
  | run prior inputs leftOutputs rightOutputs leftRecorder rightRecorder batch leftSucceeded
      rightSucceeded ih =>
    obtain ⟨leftSame, rightSame, rfl⟩ := ih
    have leftNowSound := leftSound.of_sameProgram leftSame
    have rightNowSound := rightSound.of_sameProgram rightSame
    have agree := Counterpart.agree_run leftNarrow rightNarrow
      (counterpart.of_sameProgram leftSame rightSame) leftNowSound rightNowSound leftSucceeded
      rightSucceeded
    exact ⟨leftSame.trans (leftNowSound.run_safe ..).1,
      rightSame.trans (rightNowSound.run_safe ..).1, agree.generator⟩

end Pair

/-- Narrow registers agree under the same seed, random gates included. Two circuits that were loaded
from the same bytes on any two narrow lane types have run the same batches, as many as may be, each
with a generator of its own that was started on the same seed. Then both generators are at the same
place, both circuits accept the same calls that fit both lane types, and the next batch that both
run successfully gives the same output rows. The traces that their recorders have kept and the
memories that are left agree in all lanes that both have. -/
theorem narrow_registers_agree {leftLanes rightLanes : Lanes} (leftNarrow : leftLanes.Narrow)
    (rightNarrow : rightLanes.Narrow) {leftReservation rightReservation : Reservation}
    {leftLength rightLength : Option UInt64} {leftSource rightSource : ByteSource}
    {left : Circuit leftLanes} {right : Circuit rightLanes}
    (leftLoaded : read leftLanes leftReservation leftLength leftSource = .ok left)
    (rightLoaded : read rightLanes rightReservation rightLength rightSource = .ok right)
    (same : rightSource.contents = leftSource.contents) {seed : UInt64}
    {leftNow : Circuit leftLanes} {rightNow : Circuit rightLanes}
    {leftGenerator rightGenerator : Generator}
    (reached : RunTogether left right seed leftNow leftGenerator rightNow rightGenerator) :
    leftGenerator = rightGenerator ∧
      (∀ (inputs outputs : Bytes) (batch : Nat), batch ≤ leftLanes.count →
        batch ≤ rightLanes.count →
        (leftNow.checkArguments inputs.length outputs.length batch = .ok () ↔
          rightNow.checkArguments inputs.length outputs.length batch = .ok ())) ∧
      ∀ (R S : Type) [Recorder leftLanes R] [Recorder rightLanes S] (inputs : Bytes)
        (leftOutputs rightOutputs : Bytes) (leftRecorder : R) (rightRecorder : S) (batch : Nat),
        let leftOutcome := leftNow.run inputs leftOutputs leftRecorder batch leftGenerator
        let rightOutcome := rightNow.run inputs rightOutputs rightRecorder batch rightGenerator
        let leftTrace := leftNow.traceOfRun inputs leftOutputs batch leftGenerator
        let rightTrace := rightNow.traceOfRun inputs rightOutputs batch rightGenerator
        leftOutcome.result = .ok () → rightOutcome.result = .ok () →
        Recorder.keep leftRecorder leftTrace = (.ok (), leftOutcome.recorder) ∧
          Recorder.keep rightRecorder rightTrace = (.ok (), rightOutcome.recorder) ∧
          Agree batch leftTrace rightTrace leftOutcome rightOutcome := by
  obtain ⟨gates, leftSound⟩ := (accepted_of_read leftLoaded).sound
  obtain ⟨rightGates, rightLoadedSound⟩ := (accepted_of_read rightLoaded).sound
  obtain ⟨header, inputs, outputs, stream⟩ := program_of_contents leftLoaded rightLoaded same
  have counterpart : left.Counterpart right := ⟨header, inputs, outputs, stream⟩
  have rightSound := leftSound.counterpart counterpart rightLoadedSound
  obtain ⟨leftSame, rightSame, rfl⟩ :=
    reached.invariant leftNarrow rightNarrow counterpart leftSound rightSound
  have counterpartNow := counterpart.of_sameProgram leftSame rightSame
  have leftNowSound := leftSound.of_sameProgram leftSame
  have rightNowSound := rightSound.of_sameProgram rightSame
  refine ⟨rfl, ?_, ?_⟩
  · intro inputs outputs batch leftFits rightFits
    rw [checkArguments_eq_ok_iff, checkArguments_eq_ok_iff]
    exact counterpartNow.accepts_iff leftFits rightFits
  · intro R S _ _ inputs leftOutputs rightOutputs leftRecorder rightRecorder batch leftOutcome
      rightOutcome leftTrace rightTrace leftSucceeded rightSucceeded
    obtain ⟨leftAccepts, leftKeeps⟩ := leftNowSound.keep_of_run leftSucceeded
    obtain ⟨rightAccepts, rightKeeps⟩ := rightNowSound.keep_of_run rightSucceeded
    have leftTraced : leftTrace = _ := leftNowSound.traceOfRun_eq leftAccepts
    have rightTraced : rightTrace = _ := rightNowSound.traceOfRun_eq rightAccepts
    rw [leftTraced, rightTraced]
    exact ⟨leftKeeps, rightKeeps, Counterpart.agree_run leftNarrow rightNarrow counterpartNow
      leftNowSound rightNowSound leftSucceeded rightSucceeded⟩

/-- The bytes of a circuit that adds a random bit to its only input, in the fixed layout. -/
def mask : Bytes :=
  [1, 0, 0, 0, 0, 0, 0, 0] ++ [1, 0, 0, 0, 0, 0, 0, 0] ++ [2, 0, 0, 0, 0, 0, 0, 0] ++
    [10, 0, 0, 0, 0, 0, 0, 0] ++ [3, 0, 0, 0, 0, 0, 0, 0] ++ [0, 0] ++ [2, 0] ++
    ([5, 1, 0] ++ [1, 0, 0, 1, 0, 2, 0])

/-- The circuit, loaded. -/
def maskLoaded (lanes : Lanes) : Circuit lanes :=
  ⟨⟨1, 1, 2, 10, 3, Widths.fixed⟩, [0], [2], [5, 1, 0, 1, 0, 0, 1, 0, 2, 0], #[0, 0, 0]⟩

theorem read_mask (lanes : Lanes) :
    read lanes Reservation.standard none (ByteSource.ofBytes mask) = .ok (maskLoaded lanes) := by
  cases lanes <;> cbv

/-- A run of it without a trace succeeds, whatever it draws. -/
theorem run_mask {lanes : Lanes} {circuit : Circuit lanes}
    (reached : (maskLoaded lanes).Reaches circuit) (generator : Generator) :
    (circuit.run [128] [0] (none : Option (Untraced lanes)) 1 generator).result = .ok () := by
  obtain ⟨gates, loadedSound⟩ := (accepted_of_read (read_mask lanes)).sound
  have same := loadedSound.sameProgram_of_reaches reached
  refine (loadedSound.of_sameProgram same).run_unrecorded generator ?_
  have header : circuit.header = ⟨1, 1, 2, 10, 3, Widths.fixed⟩ := same.header
  rw [checkArguments_eq_ok_iff]
  refine ⟨Nat.le_refl 1, lanes.count_pos, ?_, ?_⟩
  · rw [header]
    decide
  · rw [header]
    decide

/-- A single instance and thirty-two run the mask twice, and draw the same bits both times. -/
theorem mask_agrees :
    let alone := maskLoaded .one
    let among := maskLoaded .thirtyTwo
    let start := Generator.ofSeed 5
    let aloneFirst := alone.run [128] [0] (none : Option (Untraced .one)) 1 start
    let amongFirst := among.run [128] [0] (none : Option (Untraced .thirtyTwo)) 1 start
    let aloneSecond := aloneFirst.circuit.run [128] [0] (none : Option (Untraced .one)) 1
      aloneFirst.generator
    let amongSecond := amongFirst.circuit.run [128] [0] (none : Option (Untraced .thirtyTwo)) 1
      amongFirst.generator
    aloneFirst.result = .ok () ∧ amongFirst.result = .ok () ∧ aloneSecond.result = .ok () ∧
      amongSecond.result = .ok () ∧ aloneFirst.generator = amongFirst.generator ∧
      Agree 1 (aloneFirst.circuit.traceOfRun [128] [0] 1 aloneFirst.generator)
        (amongFirst.circuit.traceOfRun [128] [0] 1 amongFirst.generator) aloneSecond
        amongSecond := by
  intro alone among start aloneFirst amongFirst aloneSecond amongSecond
  have aloneRan : aloneFirst.result = .ok () := run_mask .refl start
  have amongRan : amongFirst.result = .ok () := run_mask .refl start
  have aloneRanAgain : aloneSecond.result = .ok () :=
    run_mask (.step .refl (.run [128] [0] none 1 start)) aloneFirst.generator
  have amongRanAgain : amongSecond.result = .ok () :=
    run_mask (.step .refl (.run [128] [0] none 1 start)) amongFirst.generator
  have once : RunTogether alone among 5 aloneFirst.circuit aloneFirst.generator amongFirst.circuit
      amongFirst.generator :=
    .run .start [128] [0] [0] none none 1 aloneRan amongRan
  obtain ⟨generators, -, next⟩ := narrow_registers_agree (by decide) (by decide) (read_mask .one)
    (read_mask .thirtyTwo) rfl once
  obtain ⟨-, -, agree⟩ := next _ _ [128] [0] [0] none none 1 aloneRanAgain amongRanAgain
  exact ⟨aloneRan, amongRan, aloneRanAgain, amongRanAgain, generators, agree⟩

end Circuit

end Bitslice
