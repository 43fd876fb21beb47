import Bitslice.Circuit
import Bitslice.Execution.RunFailure
import Bitslice.Random.Generator
import Bitslice.Trace.Recorder

/-!
# Running circuits

A run clears the memory, packs the inputs, applies every gate to all lanes in
program order and unpacks the outputs. Whatever becomes of it, the circuit, the
recorder and the generator are returned as the run left them.
-/

namespace Bitslice

/-- What the gates of a run change. -/
structure Progress (lanes : Lanes) (R : Type) where
  /-- The memory. -/
  ram : Ram lanes
  /-- The recorder of the trace. -/
  recorder : R
  /-- The source of random bits. -/
  generator : Generator

/-- A call on a circuit: its result, and everything as the call left it. -/
structure Outcome (lanes : Lanes) (R : Type) where
  /-- Whether the call succeeded. -/
  result : Except RunFailure Unit
  /-- The circuit afterwards. -/
  circuit : Circuit lanes
  /-- The output buffer afterwards. -/
  outputs : Bytes
  /-- The recorder afterwards. -/
  recorder : R
  /-- The generator afterwards. -/
  generator : Generator

namespace Gate

variable {lanes : Lanes}

/-- The register of a cell, which has to lie inside the memory. -/
def load (ram : Ram lanes) (address : UInt64) : Except RunFailure (Register lanes) :=
  match ram[address.toNat]? with
  | some register => .ok register
  | none => .error (.addressOutOfRange address (UInt64.ofNat ram.size))

/-- The register that the gate writes, and the generator after it. Only a random gate draws. -/
def evaluate (gate : Gate) (ram : Ram lanes) (generator : Generator) :
    Except RunFailure (Register lanes × Generator) := do
  let _ ← load ram gate.destination
  match gate.operator with
  | .xor =>
    let first ← load ram gate.first
    let second ← load ram gate.second
    .ok (first ^^^ second, generator)
  | .and =>
    let first ← load ram gate.first
    let second ← load ram gate.second
    .ok (first &&& second, generator)
  | .or =>
    let first ← load ram gate.first
    let second ← load ram gate.second
    .ok (first ||| second, generator)
  | .not =>
    let first ← load ram gate.first
    .ok (~~~first, generator)
  | .random => .ok (generator.draw lanes)

end Gate

namespace Circuit

variable {lanes : Lanes} {R : Type} [Recorder lanes R]

/-- Applies gates in order. Each writes its cell before the recorder is told; the first failure
stops the run. -/
def applyGates (ram : Ram lanes) (recorder : R) (generator : Generator) :
    List (Except Malformed Gate) → Except RunFailure Unit × Progress lanes R
  | [] =>
    match Recorder.finish recorder with
    | (.ok (), recorder) => (.ok (), ⟨ram, recorder, generator⟩)
    | (.error cause, recorder) => (.error (.trace cause), ⟨ram, recorder, generator⟩)
  | .error cause :: _ => (.error (.ofMalformed cause), ⟨ram, recorder, generator⟩)
  | .ok gate :: later =>
    match gate.evaluate ram generator with
    | .error failure => (.error failure, ⟨ram, recorder, generator⟩)
    | .ok (register, generator) =>
      let ram := ram.write gate.destination register
      match Recorder.record recorder register with
      | (.error cause, recorder) => (.error (.trace cause), ⟨ram, recorder, generator⟩)
      | (.ok (), recorder) => applyGates ram recorder generator later

/-- The batch fits the register, and both buffers hold enough bytes for it. -/
def checkArguments (circuit : Circuit lanes) (inputLength outputLength batch : Nat) :
    Except RunFailure Unit :=
  let inputNeed := batch * circuit.header.inputBytes
  let outputNeed := batch * circuit.header.outputBytes
  if batch = 0 ∨ lanes.count < batch then .error (.batchWidth batch lanes.count)
  else if inputLength < inputNeed then .error (.inputTooShort inputNeed inputLength)
  else if outputLength < outputNeed then .error (.outputTooShort outputNeed outputLength)
  else .ok ()

/-- Runs `batch` instances. Instance `i` is row `i` of the inputs, and its outputs become row `i`
of the output buffer; the rest of that buffer stays, and all of it if the run fails. -/
def run (circuit : Circuit lanes) (inputs outputs : Bytes) (recorder : R) (batch : Nat)
    (generator : Generator) : Outcome lanes R :=
  match circuit.checkArguments inputs.length outputs.length batch with
  | .error failure => ⟨.error failure, circuit, outputs, recorder, generator⟩
  | .ok () =>
    let packed := circuit.ram.cleared.pack circuit.inputs inputs circuit.header.inputBytes batch
    match applyGates packed recorder generator circuit.gates with
    | (.error failure, progress) =>
      ⟨.error failure, { circuit with ram := progress.ram }, outputs, progress.recorder,
        progress.generator⟩
    | (.ok (), progress) =>
      ⟨.ok (), { circuit with ram := progress.ram },
        progress.ram.unpack circuit.outputs outputs circuit.header.outputBytes batch,
        progress.recorder, progress.generator⟩

end Circuit

end Bitslice
