import Bitslice.Descriptor.Header
import Bitslice.Stream.Sink

/-!
# Building descriptors

A `Builder` collects wires and gates and keeps what its header must say. It
checks every address against the memory as it arrives and encodes each gate at
once.
-/

namespace Bitslice

/-- A descriptor under construction. -/
structure Builder where
  /-- The layout of the finished descriptor. -/
  layout : Layout
  /-- The widths of its fields. -/
  widths : Widths
  /-- The number of memory cells. -/
  memory : UInt64
  /-- The input table so far. -/
  inputs : Array UInt64
  /-- The output table so far. -/
  outputs : Array UInt64
  /-- The opcode stream so far. -/
  stream : Array UInt8
  /-- The number of gates so far. -/
  gateCount : Nat

namespace Builder

/-- An empty descriptor in the given layout. -/
def empty (layout : Layout) (memory : UInt64) (widths : Widths) : Except Malformed Builder := do
  widths.checkAddressing memory
  .ok ⟨layout, widths, memory, #[], #[], #[], 0⟩

/-- An empty descriptor in the self-describing layout. -/
def selfDescribing (memory : UInt64) (widths : Widths) : Except Malformed Builder :=
  empty .selfDescribing memory widths

/-- An empty descriptor in the fixed layout. -/
def fixed (memory : UInt64) : Except Malformed Builder :=
  empty .fixed memory Widths.fixed

/-- Names the cell that receives the next input bit. -/
def addInput (builder : Builder) (address : UInt64) : Except Malformed Builder := do
  Gate.checkAddresses builder.memory [("input", address)]
  .ok { builder with inputs := builder.inputs.push address }

/-- Names the cell that is read as the next output bit. -/
def addOutput (builder : Builder) (address : UInt64) : Except Malformed Builder := do
  Gate.checkAddresses builder.memory [("output", address)]
  .ok { builder with outputs := builder.outputs.push address }

/-- Appends a gate. The bytes of a record stay in the stream even when one of its fields does not
fit, so the result carries the builder also on failure. -/
def addGate (builder : Builder) (gate : Gate) : Except Malformed Unit × Builder :=
  match gate.check builder.memory with
  | .error cause => (.error cause, builder)
  | .ok () =>
    let record := gate.encode builder.widths
    let builder := { builder with stream := builder.stream ++ record.written }
    match record.result with
    | .error cause => (.error cause, builder)
    | .ok () => (.ok (), { builder with gateCount := builder.gateCount + 1 })

/-- The header of what has been added so far. -/
def header (builder : Builder) : Header where
  inputCount := UInt64.ofNat builder.inputs.size
  outputCount := UInt64.ofNat builder.outputs.size
  gateCount := UInt64.ofNat builder.gateCount
  streamSize := UInt64.ofNat builder.stream.size
  memory := builder.memory
  widths := builder.widths

/-- The whole descriptor: header, input table, output table, opcode stream. -/
def encode (builder : Builder) : Except Malformed Bytes := do
  let header ← builder.header.encode builder.layout
  let tables := Encoding.ofFields builder.widths.address
    (builder.inputs.toList ++ builder.outputs.toList)
  tables.result
  .ok (header ++ tables.written ++ builder.stream.toList)

/-- Writes the descriptor out in one piece and flushes. -/
def finish {W : Type} [ByteSink W] (builder : Builder) (sink : W) :
    Except IoFailure Header × W :=
  match builder.encode with
  | .error cause => (.error (.unencodable cause), sink)
  | .ok bytes =>
    match ByteSink.write sink bytes with
    | (.error cause, sink) => (.error cause, sink)
    | (.ok (), sink) =>
      match ByteSink.flush sink with
      | (.error cause, sink) => (.error cause, sink)
      | (.ok (), sink) => (.ok builder.header, sink)

end Builder

end Bitslice
