import Bitslice.Campaign.Arguments
import Bitslice.Campaign.Failure
import Bitslice.Execution.Series
import Bitslice.File.System
import Bitslice.Hex
import Bitslice.Trace.Hashed
import Bitslice.Trace.Split

/-!
# Trace campaigns

A campaign runs a circuit on random plaintexts and stores for each of them a
plaintext file, a ciphertext file and a trace with one bit per gate. It works
in batches of 64; the trace of a batch stands in a file of its own until it
has been split.
-/

namespace Bitslice

namespace Campaign

/-- The number of instances of a full batch, one for each lane. -/
def batchSize : Nat :=
  Lanes.count .sixtyFour

/-- A number with at least four digits. -/
def fourDigits (number : Nat) : String :=
  let digits := toString number
  String.ofList (List.replicate (4 - digits.length) '0') ++ digits

/-- The name of the traces of a circuit: its file name without a last `.bin`. -/
def circuitName? (path : String) : Option String :=
  (Path.fileName? path).map fun name =>
    if name.endsWith ".bin" then (name.dropEnd 4).toString else name

/-- The file that belongs to a trace. -/
def traceFile (place : String) (number : Nat) (ending : String) : String :=
  Path.join place (fourDigits number ++ ending)

/-- The file that holds the trace of a whole batch for a while. -/
def batchFile (place : String) (number : Nat) : String :=
  Path.join place (".chunk" ++ fourDigits number ++ ".bin")

/-- What one batch leaves to the next. -/
structure Stage where
  /-- The circuit, with the memory of the last run. -/
  circuit : Circuit .sixtyFour
  /-- What the random gates draw from. -/
  generator : Generator
  /-- The ciphertexts so far. -/
  ciphertexts : Array Bytes

/-- What a finished campaign has recorded. -/
structure Summary where
  /-- The number of traces. -/
  traces : Nat
  /-- The number of gates of the circuit. -/
  gates : Nat
  deriving DecidableEq, Repr

/-- The closing line of a campaign. -/
def Summary.line (summary : Summary) : String :=
  s!"Recorded {summary.traces} traces of {summary.gates} gates"

variable {m : Type → Type} [Monad m] [FileSystem m]

/-- Performs an operation that has to succeed. -/
def need {α : Type} (failure : IoFailure → CampaignFailure) (operation : m (Except IoFailure α)) :
    ExceptT CampaignFailure m α :=
  ExceptT.mk do
    match ← operation with
    | .ok value => pure (.ok value)
    | .error cause => pure (.error (failure cause))

/-- Makes an empty file for each of several traces. -/
def createTraces (place : String) : List Nat → ExceptT CampaignFailure m (List FileWriter)
  | [] => pure []
  | number :: later => do
    let path := traceFile place number ".bin"
    let device ← need (.create path) (FileSystem.createFile path)
    let writers ← createTraces place later
    pure (.start device :: writers)

/-- Stores what has been written of several traces, which were split from the trace at a path. -/
def storeTraces (place path : String) : List (Nat × FileWriter) → ExceptT CampaignFailure m Unit
  | [] => pure ()
  | (number, writer) :: later => do
    need (.split path) (FileSystem.storeBytes (traceFile place number ".bin") writer.close)
    storeTraces place path later

/-- Splits the trace of a batch into the traces of its instances. -/
def splitBatch (place path : String) (numbers : List Nat) : ExceptT CampaignFailure m Unit := do
  let file ← need (.reopen path) (FileSystem.openFile path)
  let writers ← createTraces place numbers
  let (result, writers) := Trace.split .sixtyFour file.source writers
  storeTraces place path (numbers.zip writers)
  match result with
  | .ok _ => pure ()
  | .error cause => throw (.split path cause)

/-- Runs one batch on its plaintexts and records the trace of each. -/
def recordBatch (settings : Settings) (place : String) (number : Nat) (plaintexts : List Bytes)
    (stage : Stage) : ExceptT CampaignFailure m Stage := do
  let path := batchFile place number
  let device ← need (.create path) (FileSystem.createFile path)
  let trace := HashedTrace.start (StoredTrace.start .sixtyFour (FileWriter.start device))
  let outputBytes := stage.circuit.header.outputBytes
  let outcome := stage.circuit.run plaintexts.flatten
    (List.replicate (plaintexts.length * outputBytes) 0) trace plaintexts.length stage.generator
  need (fun cause => .batch number (.trace cause))
    (FileSystem.storeBytes path outcome.recorder.inner.sink.close)
  match outcome.result with
  | .error cause => throw (.batch number cause)
  | .ok () =>
    if settings.fingerprints then
      let digest := Hex.ofBytes outcome.recorder.digest
      let label := fourDigits number
      ExceptT.lift (FileSystem.say s!"batch {label} trace {digest}")
    let first := number * batchSize
    splitBatch place path ((List.range plaintexts.length).map (first + ·))
    need (.remove path) (FileSystem.removeFile path)
    pure
      { circuit := outcome.circuit
        generator := outcome.generator
        ciphertexts := stage.ciphertexts
          ++ Bits.rows outputBytes plaintexts.length outcome.outputs }

/-- Runs the remaining plaintexts batch by batch, given the number of the next batch. -/
def recordFrom (settings : Settings) (place : String) (number : Nat) (plaintexts : List Bytes)
    (stage : Stage) : ExceptT CampaignFailure m Stage :=
  if plaintexts.isEmpty then pure stage
  else do
    let stage ← recordBatch settings place number (plaintexts.take batchSize) stage
    recordFrom settings place (number + 1) (plaintexts.drop batchSize) stage
termination_by plaintexts.length
decreasing_by
  have somePlaintext : plaintexts ≠ [] := by simpa using ‹¬plaintexts.isEmpty = true›
  have longer := List.length_pos_iff.mpr somePlaintext
  simp only [List.length_drop, batchSize, Lanes.count]
  omega

/-- Writes the plaintext and the ciphertext of each instance, numbered from the given one on. -/
def writeTexts (place : String) (number : Nat) :
    List (Bytes × Bytes) → ExceptT CampaignFailure m Unit
  | [] => pure ()
  | (plaintext, ciphertext) :: later => do
    need .write (FileSystem.writeFile (traceFile place number ".pt") plaintext)
    need .write (FileSystem.writeFile (traceFile place number ".ct") ciphertext)
    writeTexts place (number + 1) later

/-- Records a campaign. `clock` seeds the random gates if the settings do not. -/
def record (reservation : Reservation) (settings : Settings) (clock : UInt64) :
    ExceptT CampaignFailure m Summary := do
  let opened ← ExceptT.lift (FileSystem.openFile settings.circuit)
  match Circuit.load .sixtyFour reservation settings.circuit opened with
  | .error cause => throw (.load settings.circuit cause)
  | .ok circuit =>
    match circuitName? settings.circuit with
    | none => throw (.unnamed settings.circuit)
    | some name =>
      let place := Path.join settings.directory name
      ExceptT.lift (FileSystem.say s!"Tracing {settings.circuit} on {settings.traces} traces")
      ExceptT.lift (FileSystem.say s!"Saving to {place}")
      need (.create place) (FileSystem.makeDirectories place)
      let inputBytes := circuit.header.inputBytes
      let plaintexts := Bits.rows inputBytes settings.traces
        (Generator.bytesOfSeed settings.seed (settings.traces * inputBytes))
      let stage ← recordFrom settings place 0 plaintexts
        { circuit
          generator := .ofSeed (settings.randomSeed.getD clock)
          ciphertexts := #[] }
      writeTexts place 0 (plaintexts.zip stage.ciphertexts.toList)
      pure { traces := settings.traces, gates := circuit.header.gateCount.toNat }

end Campaign

end Bitslice
