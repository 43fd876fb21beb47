import Bitslice.Register
import Bitslice.Stream.Source

/-!
# Reading traces back

A stored trace is a sequence of registers of equal size. Reading yields whole
records; bytes that end inside a record are an error. After an error reading
may go on with whatever the source has left.
-/

namespace Bitslice

namespace Trace

/-- The next record of a stored trace, or `none` at its end. -/
def next? (lanes : Lanes) (source : ByteSource) :
    Option (Except IoFailure (Register lanes)) × ByteSource :=
  match source.fill lanes.bytes with
  | (.complete bytes, source) => (some (.ok (Register.decode lanes bytes)), source)
  | (.short [], source) => (none, source)
  | (.short _, source) => (some (.error .partialRecord), source)
  | (.failed cause, source) => (some (.error cause), source)

/-- What a stored trace holds up to its end or its first error. -/
structure Contents (lanes : Lanes) where
  /-- The whole records, in order. -/
  records : List (Register lanes)
  /-- The error that stopped the reading, if one did. -/
  failure : Option IoFailure
  /-- What is left of the source. -/
  rest : ByteSource

/-- A record takes something away from its source. -/
theorem size_of_next? {lanes : Lanes} {source later : ByteSource} {register : Register lanes}
    (answered : next? lanes source = (some (.ok register), later)) : later.size < source.size := by
  unfold next? at answered
  split at answered
  · next bytes rest filled =>
    obtain rfl := (Prod.mk.inj answered).2
    have nonempty : lanes.bytes - 1 + 1 = lanes.bytes := Nat.succ_pred_eq_of_pos lanes.bytes_pos
    rw [← nonempty] at filled
    exact ByteSource.size_of_fill_complete filled
  all_goals cases answered

/-- Reads on after the records already collected. -/
def readFrom {lanes : Lanes} (collected : Array (Register lanes)) (source : ByteSource) :
    Contents lanes :=
  match _answered : next? lanes source with
  | (none, later) => ⟨collected.toList, none, later⟩
  | (some (.error cause), later) => ⟨collected.toList, some cause, later⟩
  | (some (.ok register), later) => readFrom (collected.push register) later
termination_by source.size
decreasing_by exact size_of_next? _answered

/-- Reads a stored trace to its end or its first error. -/
def read (lanes : Lanes) (source : ByteSource) : Contents lanes :=
  readFrom #[] source

end Trace

end Bitslice
