import Bitslice.Execution
import Bitslice.File.Tree

/-!
# Runs with a trace file

The trace goes to a file that is created after the arguments have been checked
and before anything else happens. A record that the file does not take stops
the run like any other recorder's failure; the file keeps what it has taken.
Without a path, or with an empty one, there is no trace.
-/

namespace Bitslice

/-- A run that may have written a trace file. -/
structure FileOutcome (lanes : Lanes) where
  /-- The run itself. -/
  outcome : Outcome lanes (Option (StoredTrace lanes FileWriter))
  /-- The files afterwards. -/
  tree : FileTree

namespace Circuit

variable {lanes : Lanes}

/-- Runs `batch` instances and writes their trace to the file of a path, if there is one. -/
def runToFile (circuit : Circuit lanes) (inputs outputs : Bytes) (path : Option String)
    (batch : Nat) (generator : Generator) (tree : FileTree) : FileOutcome lanes :=
  match path.filter (· ≠ "") with
  | none => ⟨circuit.run inputs outputs none batch generator, tree⟩
  | some path =>
    match circuit.checkArguments inputs.length outputs.length batch with
    | .error failure => ⟨⟨.error failure, circuit, outputs, none, generator⟩, tree⟩
    | .ok () =>
      match tree.createFile path with
      | .error cause =>
        ⟨⟨.error (.traceUnopened path cause), circuit, outputs, none, generator⟩, tree⟩
      | .ok tree =>
        let trace := StoredTrace.start lanes (FileWriter.start (tree.deviceAt path))
        let outcome := circuit.run inputs outputs (some trace) batch generator
        let written : Bytes := match outcome.recorder with
          | none => []
          | some trace => trace.sink.close
        ⟨outcome, tree.storeBytes path written⟩

end Circuit

end Bitslice
