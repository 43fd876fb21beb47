import Bitslice.Execution

/-!
# Series of instances

Any number of instances is run in batches of as many as a register has lanes.
A supplier is asked for a recorder before each batch and told the number of
the batch; the recorders come back in that order. The first failure ends the
series, and then no outputs are returned.
-/

namespace Bitslice

/-- Something worth telling about a series that may still succeed. -/
inductive Warning where
  /-- The last batch leaves lanes without an instance. -/
  | partialBatch (instances lanes : Nat)
  deriving DecidableEq, Repr

/-- The wording of each warning. -/
def Warning.message : Warning → String
  | .partialBatch instances lanes =>
    s!"{instances} instances do not fill the last batch of {lanes} lanes"

/-- Hands out the recorder of each batch, or none for it, or a failure; `A` is what the supplier
remembers. -/
abbrev RecorderSupplier (A R : Type) := A → (batch : Nat) → Except RunFailure (Option R) × A

/-- A series of instances: its result, and everything as it left them. -/
structure SeriesOutcome (lanes : Lanes) (A R : Type) where
  /-- The outputs of all instances in order, and the recorders of the batches that had one. -/
  result : Except RunFailure (List Bytes × List R)
  /-- The circuit afterwards. -/
  circuit : Circuit lanes
  /-- The generator afterwards. -/
  generator : Generator
  /-- What the supplier remembers. -/
  supplier : A
  /-- The warnings given. -/
  warnings : List Warning

namespace Circuit

variable {lanes : Lanes} {A R : Type} [Recorder lanes R]

/-- A buffer of rows with its front overwritten. Rows behind keep what an earlier batch put
there. -/
def refill (buffer : Bytes) (rows : List Bytes) : Bytes :=
  let front := rows.flatten
  front ++ buffer.drop front.length

/-- Runs the remaining instances, given the number of the next batch, the buffers of the last
batch, and the outputs and recorders so far. -/
def runSeriesFrom (supply : RecorderSupplier A R) (circuit : Circuit lanes) (generator : Generator)
    (supplier : A) (number : Nat) (inputBuffer outputBuffer : Bytes)
    (outputs : Array Bytes) (recorders : Array R) (instances : List Bytes) :
    SeriesOutcome lanes A R :=
  if instances.isEmpty then
    ⟨.ok (outputs.toList, recorders.toList), circuit, generator, supplier, []⟩
  else
    let group := instances.take lanes.count
    let inputBuffer := refill inputBuffer (group.map (·.take circuit.header.inputBytes))
    match supply supplier number with
    | (.error failure, supplier) => ⟨.error failure, circuit, generator, supplier, []⟩
    | (.ok recorder, supplier) =>
      let outcome := circuit.run inputBuffer outputBuffer recorder group.length generator
      match outcome.result with
      | .error failure => ⟨.error failure, outcome.circuit, outcome.generator, supplier, []⟩
      | .ok () =>
        let rows := Bits.rows outcome.circuit.header.outputBytes group.length outcome.outputs
        runSeriesFrom supply outcome.circuit outcome.generator supplier (number + 1) inputBuffer
          outcome.outputs (outputs ++ rows) (recorders ++ outcome.recorder.toList)
          (instances.drop lanes.count)
termination_by instances.length
decreasing_by
  have someInstance : instances ≠ [] := by simpa using ‹¬instances.isEmpty = true›
  have someLane : 0 < lanes.count := by cases lanes <;> decide
  have longer := List.length_pos_iff.mpr someInstance
  simp only [List.length_drop]
  omega

/-- Runs any number of instances, each of at least as many bytes as the inputs take. The first
instance that is too short is refused before anything else happens. -/
def runSeries (circuit : Circuit lanes) (instances : List Bytes) (generator : Generator)
    (supply : RecorderSupplier A R) (supplier : A) : SeriesOutcome lanes A R :=
  let inputBytes := circuit.header.inputBytes
  match instances.find? (·.length < inputBytes) with
  | some short =>
    ⟨.error (.inputTooShort inputBytes short.length), circuit, generator, supplier, []⟩
  | none =>
    let warnings : List Warning :=
      if instances.length % lanes.count = 0 then []
      else [.partialBatch instances.length lanes.count]
    let outcome := runSeriesFrom supply circuit generator supplier 0
      (List.replicate (lanes.count * inputBytes) 0)
      (List.replicate (lanes.count * circuit.header.outputBytes) 0) #[] #[] instances
    { outcome with warnings := warnings }

/-- Runs any number of instances without a trace. -/
def runSeriesUntraced (circuit : Circuit lanes) (instances : List Bytes) (generator : Generator) :
    SeriesOutcome lanes Unit (Untraced lanes) :=
  circuit.runSeries instances generator (fun supplier _ => (.ok none, supplier)) ()

end Circuit

end Bitslice
