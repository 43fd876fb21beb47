import Bitslice.Stream.Sink

/-!
# Writing to files

A file stands on a device, which may have room for so many of its bytes only.
What is written to it goes through a `FileWriter`, which holds bytes back until
there are enough of them. The device sees them only then, so a refusal comes
late: at a write that needs the room, at a flush, or when the writer is closed
and nobody asks any more.
-/

namespace Bitslice

/-- What a file stands on. -/
inductive Device where
  /-- Takes every byte. -/
  | unlimited
  /-- Takes so many bytes of a file and refuses those behind them. -/
  | limited (room : Nat) (refusal : IoFailure)
  deriving DecidableEq, Repr

namespace Device

/-- The number of bytes that are taken of those offered to a file that has some already. -/
def taken (device : Device) (size offered : Nat) : Nat :=
  match device with
  | unlimited => offered
  | limited room _ => min offered (room - size)

/-- The answer to bytes that would give a file this size. -/
def answer (device : Device) (size : Nat) : Except IoFailure Unit :=
  match device with
  | unlimited => .ok ()
  | limited room refusal => if size ≤ room then .ok () else .error refusal

/-- What a file has in the end that is offered these bytes and nothing else. -/
def fitting (device : Device) (bytes : Bytes) : Bytes :=
  bytes.take (device.taken 0 bytes.length)

end Device

/-- A file that is being written. -/
structure FileWriter where
  /-- What the file has. -/
  stored : Array UInt8
  /-- What is held back. -/
  pending : Array UInt8
  /-- What the file stands on. -/
  device : Device

namespace FileWriter

/-- The number of bytes that are held back at most. No single write brings more. -/
def capacity : Nat :=
  8192

/-- An empty file. -/
def start (device : Device) : FileWriter :=
  ⟨#[], #[], device⟩

/-- Hands on what is held back, as far as the device takes it. -/
def drain (writer : FileWriter) : Except IoFailure Unit × FileWriter :=
  let count := writer.device.taken writer.stored.size writer.pending.size
  (writer.device.answer (writer.stored.size + writer.pending.size),
    { writer with
      stored := writer.stored ++ writer.pending.take count
      pending := writer.pending.drop count })

/-- Holds bytes back. If there is no room for them, those held back before are handed on first. -/
def write (writer : FileWriter) (bytes : Bytes) : Except IoFailure Unit × FileWriter :=
  if writer.pending.size + bytes.length ≤ capacity then
    (.ok (), { writer with pending := writer.pending ++ bytes })
  else
    match writer.drain with
    | (.error cause, writer) => (.error cause, writer)
    | (.ok (), writer) => (.ok (), { writer with pending := writer.pending ++ bytes })

/-- What the file has once the writer is closed. What is still held back is handed on, but a
refusal is not reported any more. -/
def close (writer : FileWriter) : Bytes :=
  writer.drain.2.stored.toList

instance : ByteSink FileWriter where
  write := write
  flush := drain

end FileWriter

end Bitslice
