import Bitslice.Circuit
import Bitslice.Execution.RunFailure
import Bitslice.Trace.Reader
import Std.Data.TreeMap.Basic

/-!
# Replaying traces

A trace has one record for each gate of the circuit it was taken from. Replay
walks both together and keeps, for every cell that some gate writes, the last
value written.
-/

namespace Bitslice

/-- Registers by cell address, in ascending order. -/
abbrev CellMap (lanes : Lanes) := Std.TreeMap Nat (Register lanes)

namespace Trace

variable {lanes : Lanes}

/-- Gives each remaining gate its record; `read` records have been taken before. -/
def replayGates (source : ByteSource) (read : Nat) (cells : CellMap lanes) :
    List (Except Malformed Gate) → Except RunFailure (CellMap lanes)
  | [] =>
    match next? lanes source with
    | (none, _) => .ok cells
    | (some _, _) => .error (.trace .surplusRecord)
  | .error cause :: _ => .error (.ofMalformed cause)
  | .ok gate :: rest =>
    match next? lanes source with
    | (none, _) => .error (.trace (.missingRecord read))
    | (some (.error cause), _) => .error (.trace cause)
    | (some (.ok register), source) =>
      replayGates source (read + 1) (cells.insert gate.destination.toNat register) rest

/-- The last value written to each cell that the circuit's gates write, according to a trace. -/
def replay (circuit : Circuit lanes) (source : ByteSource) :
    Except RunFailure (CellMap lanes) :=
  replayGates source 0 ∅ circuit.gates

/-- Gives each remaining gate the next item of a trace; `read` records have been taken before. -/
def assignItems (read : Nat) (cells : CellMap lanes) :
    List (Except IoFailure (Register lanes)) → List (Except Malformed Gate) →
      Except RunFailure (CellMap lanes)
  | [], [] => .ok cells
  | _ :: _, [] => .error (.trace .surplusRecord)
  | _, .error cause :: _ => .error (.ofMalformed cause)
  | [], .ok _ :: _ => .error (.trace (.missingRecord read))
  | .error cause :: _, .ok _ :: _ => .error (.trace cause)
  | .ok register :: items, .ok gate :: rest =>
    assignItems (read + 1) (cells.insert gate.destination.toNat register) items rest

/-- Replays a trace that need not be read from anywhere, such as one kept in memory. -/
def replayItems (circuit : Circuit lanes) (items : List (Except IoFailure (Register lanes))) :
    Except RunFailure (CellMap lanes) :=
  assignItems 0 ∅ items circuit.gates

end Trace

end Bitslice
