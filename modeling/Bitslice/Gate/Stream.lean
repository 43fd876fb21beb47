import Bitslice.Gate.Record

/-!
# Opcode streams

An opcode stream is a sequence of gate records without separators. A
`GateStream` is a position in one: it yields a gate at a time, ends with the
bytes, and yields nothing after its first error.
-/

namespace Bitslice

/-- A position in an opcode stream. -/
structure GateStream where
  /-- The widths of the stream's records. -/
  widths : Widths
  /-- The number of bytes decoded so far. -/
  offset : Nat
  /-- The bytes from this position on. -/
  remaining : Bytes
  /-- Whether a bad record has been met. -/
  failed : Bool

namespace GateStream

/-- The start of a stream. -/
def start (widths : Widths) (stream : Bytes) : GateStream :=
  ⟨widths, 0, stream, false⟩

/-- The next item and the position after it, or `none` at the end or after an error. A bad
record does not move the position. -/
def next? (stream : GateStream) : Option (Except Malformed Gate × GateStream) :=
  if stream.failed || stream.remaining.isEmpty then none
  else
    match Gate.decode stream.widths stream.offset stream.remaining with
    | .ok (gate, rest) =>
      some (.ok gate,
        { stream with offset := stream.offset + gate.recordSize stream.widths, remaining := rest })
    | .error cause => some (.error cause, { stream with failed := true })

/-- Collects the items from this position to the end, after those already collected. -/
def collect (widths : Widths) (offset : Nat) (remaining : Bytes)
    (collected : Array (Except Malformed Gate)) : Array (Except Malformed Gate) :=
  if remaining.isEmpty then collected
  else
    match _decoded : Gate.decode widths offset remaining with
    | .ok (gate, rest) =>
      collect widths (offset + gate.recordSize widths) rest (collected.push (.ok gate))
    | .error cause => collected.push (.error cause)
termination_by remaining.length
decreasing_by exact Gate.length_lt_of_decode _decoded

/-- Every item of a stream: its gates, and last the error if there is a bad record. -/
def items (widths : Widths) (stream : Bytes) : List (Except Malformed Gate) :=
  (collect widths 0 stream #[]).toList

end GateStream

end Bitslice
