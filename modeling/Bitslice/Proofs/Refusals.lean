import Bitslice.Proofs.Stopping
import Mathlib.Algebra.Order.Floor.Div

/-!
# Refused calls leave everything as it was

The arguments of a call are checked before anything else, the width of the batch
first, then the inputs, then the outputs (`Circuit.Refuses`). A trace file is
made only once they are accepted, and before the run begins. So a refused call
and one without its trace file have changed nothing. The check is made with
numbers of any size; `Circuit.checkWords` makes it with 64-bit words, and on
tables that can exist it comes to the same.
-/

namespace Bitslice

variable {lanes : Lanes}

/-- The failure is that the arguments were refused. -/
def RunFailure.OfArguments : RunFailure → Prop
  | batchWidth _ _ => True
  | inputTooShort _ _ => True
  | outputTooShort _ _ => True
  | _ => False

namespace Circuit

/-- What a call on a circuit is refused with: the batch is empty or too wide for the registers, or
else the inputs are too short for it, or else the outputs are. A row has a byte for every eight
wires or fewer. -/
inductive Refuses (circuit : Circuit lanes) (inputLength outputLength batch : Nat) :
    RunFailure → Prop where
  | batchWidth (outside : batch = 0 ∨ lanes.count < batch) :
      Refuses circuit inputLength outputLength batch (.batchWidth batch lanes.count)
  | inputTooShort (inside : 1 ≤ batch ∧ batch ≤ lanes.count)
      (short : inputLength < batch * (circuit.inputs.length ⌈/⌉ 8)) :
      Refuses circuit inputLength outputLength batch
        (.inputTooShort (batch * (circuit.inputs.length ⌈/⌉ 8)) inputLength)
  | outputTooShort (inside : 1 ≤ batch ∧ batch ≤ lanes.count)
      (enough : batch * (circuit.inputs.length ⌈/⌉ 8) ≤ inputLength)
      (short : outputLength < batch * (circuit.outputs.length ⌈/⌉ 8)) :
      Refuses circuit inputLength outputLength batch
        (.outputTooShort (batch * (circuit.outputs.length ⌈/⌉ 8)) outputLength)

section Words

/-- The bytes of a row of wires, counted in 64-bit words. -/
def rowWords (count : UInt64) : UInt64 :=
  if 0 < count % 8 then count / 8 + 1 else count / 8

/-- The check of the arguments in 64-bit words, whose products wrap around. -/
def checkWords (circuit : Circuit lanes) (inputLength outputLength batch : UInt64) :
    Except RunFailure Unit :=
  let inputNeed := batch * rowWords circuit.header.inputCount
  let outputNeed := batch * rowWords circuit.header.outputCount
  if batch = 0 ∨ UInt64.ofNat lanes.count < batch then
    .error (.batchWidth batch.toNat lanes.count)
  else if inputLength < inputNeed then
    .error (.inputTooShort inputNeed.toNat inputLength.toNat)
  else if outputLength < outputNeed then
    .error (.outputTooShort outputNeed.toNat outputLength.toNat)
  else .ok ()

theorem toNat_rowWords (count : UInt64) : (rowWords count).toNat = (count.toNat + 7) / 8 := by
  have small := count.toNat_lt
  unfold rowWords
  split
  · next rest =>
    rw [UInt64.lt_iff_toNat_lt, UInt64.toNat_mod] at rest
    rw [UInt64.toNat_add, UInt64.toNat_div]
    simp at rest ⊢
    omega
  · next rest =>
    rw [UInt64.lt_iff_toNat_lt, UInt64.toNat_mod] at rest
    rw [UInt64.toNat_div]
    simp at rest ⊢
    omega

/-- A batch that fits the registers needs fewer than 2 ^ 64 bytes of rows, unless a table has more
than 2 ^ 59 entries. -/
theorem toNat_mul_rowWords {batch count : UInt64} (fits : batch.toNat ≤ lanes.count)
    (few : count.toNat ≤ 2 ^ 59) :
    (batch * rowWords count).toNat = batch.toNat * ((count.toNat + 7) / 8) := by
  have wide : lanes.count ≤ 2 ^ 7 := by cases lanes <;> decide
  have row : (count.toNat + 7) / 8 ≤ 2 ^ 56 := by omega
  have bounded : batch.toNat * ((count.toNat + 7) / 8) ≤ 2 ^ 7 * 2 ^ 56 :=
    Nat.mul_le_mul (Nat.le_trans fits wide) row
  rw [UInt64.toNat_mul, toNat_rowWords]
  exact Nat.mod_eq_of_lt (Nat.lt_of_le_of_lt bounded (by decide))

/-- No product wraps around, so the check in words is that in numbers. -/
theorem checkWords_eq (circuit : Circuit lanes)
    (inputsFew : circuit.header.inputCount.toNat ≤ 2 ^ 59)
    (outputsFew : circuit.header.outputCount.toNat ≤ 2 ^ 59)
    (inputLength outputLength batch : UInt64) :
    circuit.checkWords inputLength outputLength batch =
      circuit.checkArguments inputLength.toNat outputLength.toNat batch.toNat := by
  have width : (batch = 0 ∨ UInt64.ofNat lanes.count < batch) ↔
      (batch.toNat = 0 ∨ lanes.count < batch.toNat) := by
    have counted : (UInt64.ofNat lanes.count).toNat = lanes.count := by cases lanes <;> rfl
    rw [UInt64.lt_iff_toNat_lt, counted, ← UInt64.toNat_inj]
    rfl
  unfold checkWords checkArguments
  simp only [width]
  by_cases outside : batch.toNat = 0 ∨ lanes.count < batch.toNat
  · rw [if_pos outside, if_pos outside]
  · have fits : batch.toNat ≤ lanes.count := by omega
    rw [if_neg outside, if_neg outside]
    simp only [UInt64.lt_iff_toNat_lt, toNat_mul_rowWords fits inputsFew,
      toNat_mul_rowWords fits outputsFew]
    rfl

end Words

section Check

variable {circuit : Circuit lanes} {gates : List Gate} {inputs outputs : Bytes} {batch : Nat}
  {failure : RunFailure}

theorem Sound.inputBytes_eq (sound : circuit.Sound gates) :
    circuit.header.inputBytes = circuit.inputs.length ⌈/⌉ 8 := by
  rw [Nat.ceilDiv_eq_add_pred_div, sound.inputsCounted]
  rfl

theorem Sound.outputBytes_eq (sound : circuit.Sound gates) :
    circuit.header.outputBytes = circuit.outputs.length ⌈/⌉ 8 := by
  rw [Nat.ceilDiv_eq_add_pred_div, sound.outputsCounted]
  rfl

/-- The check fails with exactly what the arguments are refused with. -/
theorem Sound.checkArguments_eq_error_iff (sound : circuit.Sound gates)
    {inputLength outputLength : Nat} :
    circuit.checkArguments inputLength outputLength batch = .error failure ↔
      circuit.Refuses inputLength outputLength batch failure := by
  unfold checkArguments
  rw [sound.inputBytes_eq, sound.outputBytes_eq]
  simp only
  constructor
  · intro refused
    split at refused
    · next outside =>
      cases refused
      exact .batchWidth outside
    · next fits =>
      have inside : 1 ≤ batch ∧ batch ≤ lanes.count := by omega
      split at refused
      · next short =>
        cases refused
        exact .inputTooShort inside short
      · next enough =>
        split at refused
        · next short =>
          cases refused
          exact .outputTooShort inside (Nat.le_of_not_lt enough) short
        · cases refused
  · intro refuses
    cases refuses with
    | batchWidth outside => rw [if_pos outside]
    | inputTooShort inside short =>
      have fits : ¬(batch = 0 ∨ lanes.count < batch) := by omega
      rw [if_neg fits, if_pos short]
    | outputTooShort inside enough short =>
      have fits : ¬(batch = 0 ∨ lanes.count < batch) := by omega
      rw [if_neg fits, if_neg (Nat.not_lt_of_le enough), if_pos short]

theorem Refuses.ofArguments {inputLength outputLength : Nat}
    (refuses : circuit.Refuses inputLength outputLength batch failure) : failure.OfArguments := by
  cases refuses <;> exact trivial

section Calls

variable {R : Type} [Recorder lanes R] {generator : Generator}

/-- A trace file that cannot be made is reported once the arguments are accepted, and before
anything else happens. -/
theorem runToFile_of_unmade (accepts : circuit.Accepts inputs outputs batch) {name : String}
    (named : name ≠ "") {tree : FileTree} {cause : IoFailure}
    (unmade : tree.createFile name = .error cause) (generator : Generator) :
    circuit.runToFile inputs outputs (some name) batch generator tree =
      ⟨⟨.error (.traceUnopened name cause), circuit, outputs, none, generator⟩, tree⟩ := by
  have here : (some name).filter (· ≠ "") = some name := by simp [named]
  rw [runToFile, here]
  simp only [checkArguments_eq_ok_iff.mpr accepts, unmade]

/-- A run fails because of its arguments only if they are refused. -/
theorem Sound.refused_of_run (sound : circuit.Sound gates) {recorder : R}
    (failed : (circuit.run inputs outputs recorder batch generator).result = .error failure)
    (argument : failure.OfArguments) :
    circuit.checkArguments inputs.length outputs.length batch = .error failure := by
  rcases checked : circuit.checkArguments inputs.length outputs.length batch with refusal | ⟨⟩
  · rw [run_of_refused checked] at failed
    exact failed
  · obtain ⟨cause, rfl, -⟩ := sound.keep_of_failed_run (checkArguments_eq_ok_iff.mp checked) failed
    cases argument

/-- A run never reports a trace file that was not made: it makes none. -/
theorem Sound.run_ne_unopened (sound : circuit.Sound gates) (recorder : R) (name : String)
    (cause : IoFailure) :
    (circuit.run inputs outputs recorder batch generator).result ≠
      .error (.traceUnopened name cause) := by
  intro failed
  rcases checked : circuit.checkArguments inputs.length outputs.length batch with refusal | ⟨⟩
  · rw [run_of_refused checked] at failed
    obtain rfl := Except.error.inj failed
    cases sound.checkArguments_eq_error_iff.mp checked
  · obtain ⟨other, same, -⟩ :=
      sound.keep_of_failed_run (checkArguments_eq_ok_iff.mp checked) failed
    cases same

/-- A run fails because of its arguments exactly if they are refused. -/
theorem Sound.run_refused_iff (sound : circuit.Sound gates) {recorder : R} :
    (circuit.run inputs outputs recorder batch generator).result = .error failure ∧
        failure.OfArguments ↔
      circuit.Refuses inputs.length outputs.length batch failure := by
  rw [← sound.checkArguments_eq_error_iff]
  constructor
  · rintro ⟨failed, argument⟩
    exact sound.refused_of_run failed argument
  · intro refused
    rw [run_of_refused refused]
    exact ⟨rfl, (sound.checkArguments_eq_error_iff.mp refused).ofArguments⟩

/-- With a file, a run fails because of its arguments only if they are refused too. -/
theorem Sound.refused_of_runToFile (sound : circuit.Sound gates) {path : Option String}
    {tree : FileTree}
    (failed : (circuit.runToFile inputs outputs path batch generator tree).outcome.result =
      .error failure)
    (argument : failure.OfArguments) :
    circuit.checkArguments inputs.length outputs.length batch = .error failure := by
  unfold runToFile at failed
  split at failed
  · exact sound.refused_of_run failed argument
  · next name given =>
    rcases checked : circuit.checkArguments inputs.length outputs.length batch with refusal | ⟨⟩
    · rw [checked] at failed
      exact failed
    · rw [checked] at failed
      rcases created : tree.createFile name with cause | made
      · rw [created] at failed
        obtain rfl := Except.error.inj failed
        cases argument
      · rw [created] at failed
        exact checked.symm.trans (sound.refused_of_run failed argument)

theorem Sound.runToFile_refused_iff (sound : circuit.Sound gates) {path : Option String}
    {tree : FileTree} :
    (circuit.runToFile inputs outputs path batch generator tree).outcome.result = .error failure ∧
        failure.OfArguments ↔
      circuit.Refuses inputs.length outputs.length batch failure := by
  rw [← sound.checkArguments_eq_error_iff]
  constructor
  · rintro ⟨failed, argument⟩
    exact sound.refused_of_runToFile failed argument
  · intro refused
    rw [runToFile_of_refused refused]
    exact ⟨rfl, (sound.checkArguments_eq_error_iff.mp refused).ofArguments⟩

/-- A trace file is reported as not made exactly if the arguments are accepted and the name it has
cannot be made. -/
theorem Sound.runToFile_unopened_iff (sound : circuit.Sound gates) {path : Option String}
    {tree : FileTree} {name : String} {cause : IoFailure} :
    (circuit.runToFile inputs outputs path batch generator tree).outcome.result =
        .error (.traceUnopened name cause) ↔
      circuit.Accepts inputs outputs batch ∧ path = some name ∧ name ≠ "" ∧
        tree.createFile name = .error cause := by
  constructor
  · intro failed
    unfold runToFile at failed
    split at failed
    · exact absurd failed (sound.run_ne_unopened none name cause)
    · next given here =>
      obtain ⟨rfl, named⟩ := Option.filter_eq_some_iff.mp here
      rcases checked : circuit.checkArguments inputs.length outputs.length batch with refusal | ⟨⟩
      · rw [checked] at failed
        obtain rfl := Except.error.inj failed
        cases sound.checkArguments_eq_error_iff.mp checked
      · rw [checked] at failed
        rcases created : tree.createFile given with reason | made
        · rw [created] at failed
          obtain ⟨rfl, rfl⟩ := RunFailure.traceUnopened.inj (Except.error.inj failed)
          exact ⟨checkArguments_eq_ok_iff.mp checked, rfl, of_decide_eq_true named, created⟩
        · rw [created] at failed
          exact absurd failed (sound.run_ne_unopened _ name cause)
  · rintro ⟨accepts, rfl, named, unmade⟩
    rw [runToFile_of_unmade accepts named unmade]

end Calls

end Check

/-- Refused calls leave everything as it was. A run, with a recorder or with a trace file, fails
because of its arguments exactly if they are refused, and with what they are refused with; the
check in 64-bit words, whose products could wrap around, finds the same. A trace file is reported
as not made exactly if the arguments are accepted and it cannot be created. In each of these cases
the circuit with its memory, the outputs and the generator are as they were, the recorder has been
told nothing, and no file has been created or emptied. -/
theorem refused_calls_change_nothing {reservation : Reservation} {length : Option UInt64}
    {source : ByteSource} {circuit : Circuit lanes}
    (loaded : read lanes reservation length source = .ok circuit)
    (inputsFew : circuit.inputs.length ≤ 2 ^ 59) (outputsFew : circuit.outputs.length ≤ 2 ^ 59)
    {earlier : Ram lanes} (sized : earlier.size = circuit.ram.size) :
    let start : Circuit lanes := { circuit with ram := earlier }
    (∀ inputLength outputLength batch : UInt64,
      start.checkWords inputLength outputLength batch =
        start.checkArguments inputLength.toNat outputLength.toNat batch.toNat) ∧
    ∀ (inputs outputs : Bytes) (batch : Nat) (generator : Generator),
      (∀ (R : Type) [Recorder lanes R] (recorder : R) (failure : RunFailure),
        let outcome := start.run inputs outputs recorder batch generator
        (outcome.result = .error failure ∧ failure.OfArguments ↔
          start.Refuses inputs.length outputs.length batch failure) ∧
        (start.Refuses inputs.length outputs.length batch failure →
          outcome = ⟨.error failure, start, outputs, recorder, generator⟩)) ∧
      ∀ (path : Option String) (tree : FileTree),
        let done := start.runToFile inputs outputs path batch generator tree
        (∀ failure : RunFailure,
          (done.outcome.result = .error failure ∧ failure.OfArguments ↔
            start.Refuses inputs.length outputs.length batch failure) ∧
          (start.Refuses inputs.length outputs.length batch failure →
            done = ⟨⟨.error failure, start, outputs, none, generator⟩, tree⟩)) ∧
        ∀ (name : String) (cause : IoFailure),
          (done.outcome.result = .error (.traceUnopened name cause) ↔
            start.Accepts inputs outputs batch ∧ path = some name ∧ name ≠ "" ∧
              tree.createFile name = .error cause) ∧
          (done.outcome.result = .error (.traceUnopened name cause) →
            done = ⟨⟨.error (.traceUnopened name cause), start, outputs, none, generator⟩,
              tree⟩) := by
  intro start
  obtain ⟨gates, loadedSound⟩ := (accepted_of_read loaded).sound
  have sound : start.Sound gates := loadedSound.of_sameProgram ⟨rfl, rfl, rfl, rfl, sized⟩
  refine ⟨?_, ?_⟩
  · rw [loadedSound.inputsCounted] at inputsFew
    rw [loadedSound.outputsCounted] at outputsFew
    exact start.checkWords_eq inputsFew outputsFew
  · intro inputs outputs batch generator
    refine ⟨?_, ?_⟩
    · intro R _ recorder failure outcome
      refine ⟨sound.run_refused_iff, fun refuses => ?_⟩
      exact run_of_refused (sound.checkArguments_eq_error_iff.mpr refuses) recorder generator
    · intro path tree done
      refine ⟨fun failure => ⟨sound.runToFile_refused_iff, fun refuses => ?_⟩,
        fun name cause => ⟨sound.runToFile_unopened_iff, fun failed => ?_⟩⟩
      · exact runToFile_of_refused (sound.checkArguments_eq_error_iff.mpr refuses) path generator
          tree
      · obtain ⟨accepts, rfl, named, unmade⟩ := sound.runToFile_unopened_iff.mp failed
        exact runToFile_of_unmade accepts named unmade generator

/-- The inverter asked for no instance, without its input, without room for its output, and for a
trace where a directory stands. -/
theorem inverter_refuses :
    read .eight Reservation.standard none (ByteSource.ofBytes inverter) =
        .ok (inverterLoaded .eight) ∧
      let start := inverterLoaded .eight
      let generator := Generator.ofSeed 1
      let trace := TraceList.empty .eight
      let tree := (FileTree.empty "w").insert ["w", "t"] .directory
      (start.run [128] [170] trace 0 generator =
        ⟨.error (.batchWidth 0 8), start, [170], trace, generator⟩) ∧
      (start.run [] [170] trace 1 generator =
        ⟨.error (.inputTooShort 1 0), start, [170], trace, generator⟩) ∧
      (start.runToFile [128] [] (some "t") 1 generator tree =
        ⟨⟨.error (.outputTooShort 1 0), start, [], none, generator⟩, tree⟩) ∧
      start.runToFile [128] [170] (some "t") 1 generator tree =
        ⟨⟨.error (.traceUnopened "t" (.system .isDirectory)), start, [170], none, generator⟩,
          tree⟩ := by
  refine ⟨read_inverter .eight, ?_⟩
  intro start generator trace tree
  have loaded : read .eight Reservation.standard none (ByteSource.ofBytes inverter) = .ok start :=
    read_inverter .eight
  have few : start.inputs.length ≤ 2 ^ 59 := by decide
  have fewToo : start.outputs.length ≤ 2 ^ 59 := by decide
  obtain ⟨-, calls⟩ := refused_calls_change_nothing loaded few fewToo
    (rfl : start.ram.size = start.ram.size)
  have accepts : start.Accepts [128] [170] 1 := ⟨by decide, by decide, by decide, by decide⟩
  have unmade : tree.createFile "t" = .error (.system .isDirectory) :=
    FileTree.createFile_t_of_directory "w"
  have noInstance : start.Refuses 1 1 0 (.batchWidth 0 8) := .batchWidth (.inl rfl)
  have inside : 1 ≤ 1 ∧ 1 ≤ Lanes.eight.count := by decide
  have inputRow : 1 * (start.inputs.length ⌈/⌉ 8) = 1 := by decide
  have outputRow : 1 * (start.outputs.length ⌈/⌉ 8) = 1 := by decide
  have noInput : start.Refuses 0 1 1 (.inputTooShort 1 0) := by
    have refuses : start.Refuses 0 1 1 _ := .inputTooShort inside (by rw [inputRow]; decide)
    rwa [inputRow] at refuses
  have noRoom : start.Refuses 1 0 1 (.outputTooShort 1 0) := by
    have refuses : start.Refuses 1 0 1 _ :=
      .outputTooShort inside inputRow.le (by rw [outputRow]; decide)
    rwa [outputRow] at refuses
  refine ⟨?_, ?_, ?_, ?_⟩
  · exact ((calls [128] [170] 0 generator).1 _ trace _).2 noInstance
  · exact ((calls [] [170] 1 generator).1 _ trace _).2 noInput
  · exact (((calls [128] [] 1 generator).2 (some "t") tree).1 _).2 noRoom
  · obtain ⟨-, unopened⟩ := (calls [128] [170] 1 generator).2 (some "t") tree
    obtain ⟨reported, unchanged⟩ := unopened "t" (.system .isDirectory)
    exact unchanged (reported.mpr ⟨accepts, rfl, by decide, unmade⟩)

end Circuit

end Bitslice
