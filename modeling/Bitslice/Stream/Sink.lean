import Bitslice.Field
import Bitslice.Stream.Failure

/-!
# Byte sinks

A sink takes bytes and may be flushed. A write either stores all its bytes or
fails, possibly after storing some of them; the sink is returned in both
cases, so what was stored stays visible. `BoundedBuffer` is the sink in memory
that can run full.
-/

namespace Bitslice

/-- Something that bytes can be written to. -/
class ByteSink (W : Type) where
  /-- Stores all the bytes, or fails after storing some. -/
  write : W → Bytes → Except IoFailure Unit × W
  /-- Hands on whatever the sink still holds back. -/
  flush : W → Except IoFailure Unit × W

/-- A buffer in memory, with or without a limit on what it stores. -/
structure BoundedBuffer where
  /-- What has been stored. -/
  stored : Array UInt8
  /-- The number of bytes it can store, if there is a limit. -/
  limit : Option Nat
  /-- Whether a flush fails. -/
  flushFails : Bool

namespace BoundedBuffer

/-- An empty buffer that takes everything. -/
def unbounded : BoundedBuffer :=
  ⟨#[], none, false⟩

/-- Stores what still fits below the limit; bytes without room fail the write. -/
def write (buffer : BoundedBuffer) (bytes : Bytes) : Except IoFailure Unit × BoundedBuffer :=
  match buffer.limit with
  | none => (.ok (), { buffer with stored := buffer.stored ++ bytes })
  | some limit =>
    let room := limit - buffer.stored.size
    let result : Except IoFailure Unit :=
      if bytes.length ≤ room then .ok () else .error (.device .other "disk full")
    (result, { buffer with stored := buffer.stored ++ bytes.take room })

/-- Fails if the buffer was made so; nothing is held back in any case. -/
def flush (buffer : BoundedBuffer) : Except IoFailure Unit × BoundedBuffer :=
  (if buffer.flushFails then .error (.device .other "flush failed") else .ok (), buffer)

instance : ByteSink BoundedBuffer where
  write := write
  flush := flush

end BoundedBuffer

end Bitslice
