import Bitslice.Execution.TraceFile

/-!
# Hosting circuits behind handles

A host keeps circuits of 64 lanes behind handles and one generator that all of
them draw from, in the order of the calls. Calls answer with a number instead
of a failure. A handle without a circuit, a negative batch and a missing buffer
where bytes are needed are refused arguments.
-/

namespace Bitslice

/-- A host's circuits and their generator. -/
structure Host where
  /-- The circuit behind each handle, where there is one. -/
  circuits : Array (Option (Circuit .sixtyFour))
  /-- What all random gates draw from. -/
  generator : Generator
  /-- The files. -/
  tree : FileTree

/-- The answer to a run: a status and the output buffer, if there is one. -/
structure HostAnswer where
  /-- Zero, or the number of the failure. -/
  status : Int
  /-- The output buffer afterwards. -/
  outputs : Option Bytes

namespace Host

/-- The status of a successful call. -/
def succeeded : Int :=
  0

/-- The status of a call whose arguments are refused. -/
def refused : Int :=
  -4

/-- A host with a number of handles, none of them in use. -/
def start (handles : Nat) (seed : UInt64) (tree : FileTree) : Host :=
  ⟨Array.replicate handles none, .ofSeed seed, tree⟩

/-- Restarts the generator. -/
def setSeed (host : Host) (seed : UInt64) : Host :=
  { host with generator := .ofSeed seed }

/-- The circuit behind a handle. -/
def circuit? (host : Host) (handle : Nat) : Option (Circuit .sixtyFour) :=
  (host.circuits[handle]?).join

/-- Puts a circuit, or none, behind a handle. What was there is gone. -/
def place (host : Host) (handle : Nat) (circuit : Option (Circuit .sixtyFour)) : Host :=
  { host with circuits := host.circuits.setIfInBounds handle circuit }

/-- Empties a handle. -/
def release (host : Host) (handle : Nat) : Host :=
  host.place handle none

/-- Loads a circuit from a file of that name, if a name is given. Any failure gives none. -/
def load? (host : Host) (reservation : Reservation) (path : Option String) :
    Option (Circuit .sixtyFour) :=
  match path with
  | none => none
  | some path => (Circuit.load .sixtyFour reservation path (host.tree.openFile path)).toOption

/-- Loads a circuit behind a handle, and tells whether there is one now. -/
def load (host : Host) (reservation : Reservation) (handle : Nat) (path : Option String) :
    Bool × Host :=
  let circuit := host.load? reservation path
  (circuit.isSome, host.place handle circuit)

/-- The bytes of a buffer that a call needs, or none if the buffer is missing. -/
def needed (buffer : Option Bytes) (length : Nat) : Option Bytes :=
  match buffer with
  | some bytes => some (bytes.take length)
  | none => if length = 0 then some [] else none

/-- A buffer with its front replaced. -/
def overwrite (buffer : Option Bytes) (front : Bytes) : Option Bytes :=
  buffer.map fun bytes => front ++ bytes.drop front.length

/-- Runs instances on the circuit behind a handle. Exactly the bytes that the batch needs are
taken from the buffers. -/
def run (host : Host) (handle : Nat) (inputs outputs : Option Bytes) (path : Option String)
    (batch : Int) : HostAnswer × Host :=
  match host.circuit? handle with
  | none => (⟨refused, outputs⟩, host)
  | some circuit =>
    if batch ≤ 0 ∨ (Lanes.count .sixtyFour : Int) < batch then (⟨refused, outputs⟩, host)
    else
      let count := batch.toNat
      match needed inputs (count * circuit.header.inputBytes),
          needed outputs (count * circuit.header.outputBytes) with
      | some read, some written =>
        let answer := circuit.runToFile read written path count host.generator host.tree
        let outcome := answer.outcome
        let status := match outcome.result with
          | .ok () => succeeded
          | .error failure => failure.status
        (⟨status, overwrite outputs outcome.outputs⟩,
          { host.place handle (some outcome.circuit) with
            generator := outcome.generator
            tree := answer.tree })
      | _, _ => (⟨refused, outputs⟩, host)

end Host

end Bitslice
