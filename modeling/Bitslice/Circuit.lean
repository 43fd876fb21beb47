import Bitslice.Descriptor.Header
import Bitslice.Gate.Stream
import Bitslice.Ram

/-!
# Circuits

A loaded circuit keeps its header, its two address tables, the encoded gates
and a working memory. Only the memory changes when it runs.
-/

namespace Bitslice

/-- A circuit that is ready to run on registers of the given lanes. -/
structure Circuit (lanes : Lanes) where
  /-- What the descriptor said. -/
  header : Header
  /-- The cell that receives input bit `k`, for each `k`. -/
  inputs : List UInt64
  /-- The cell that is read as output bit `k`, for each `k`. -/
  outputs : List UInt64
  /-- The encoded gates. -/
  stream : Bytes
  /-- The memory as the last run left it. -/
  ram : Ram lanes

namespace Circuit

variable {lanes : Lanes}

/-- The gates in program order, read from the encoded stream. -/
def gates (circuit : Circuit lanes) : List (Except Malformed Gate) :=
  GateStream.items circuit.header.widths circuit.stream

end Circuit

end Bitslice
