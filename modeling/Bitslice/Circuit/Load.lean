import Bitslice.Circuit
import Bitslice.Circuit.LoadFailure
import Bitslice.Stream.Source

/-!
# Loading circuits

A descriptor is read front to back: header, input table, output table, opcode
stream, and then nothing more. Each buffer is reserved just before it is
filled, the memory last of all, and every address and record is checked, so a
loaded circuit can run without meeting a bad one.
-/

namespace Bitslice

/-- Decides whether a buffer of a number of elements, each of a number of bytes, can be had. -/
abbrev Reservation := (elements size : Nat) → Bool

/-- Grants buffers of up to one gibibyte. -/
def Reservation.standard : Reservation :=
  fun elements size => elements * size ≤ 1073741824

/-- A file that has been opened: its bytes and the length it is known to have. -/
structure OpenedFile where
  /-- What reading the file gives. -/
  source : ByteSource
  /-- The length of the file. -/
  length : UInt64

namespace Circuit

/-- The number of table entries that are read at a time. -/
def entriesPerRead : Nat :=
  4096

/-- Reads exactly `count` bytes that belong to a part of the descriptor. -/
def readPart (part : Section) (count : Nat) (source : ByteSource) :
    Except LoadFailure (Bytes × ByteSource) :=
  match source.fill count with
  | (.complete bytes, source) => .ok (bytes, source)
  | (.short _, _) => .error (.truncated part)
  | (.failed cause, _) =>
    if cause.kind = .unexpectedEnd then .error (.truncated part) else .error (.unreadable cause)

/-- Reads the header, of the layout that its first four bytes announce. -/
def readHeader (source : ByteSource) : Except LoadFailure (Layout × Header × ByteSource) := do
  let (leading, source) ← readPart .header 4 source
  let layout := Layout.announced leading
  let (others, source) ← readPart .header (layout.headerSize - 4) source
  match Header.decode layout (leading ++ others) with
  | .error cause => .error (.header cause)
  | .ok header => .ok (layout, header, source)

/-- A known length has to be the one that the header declares. -/
def checkLength (layout : Layout) (header : Header) : Option UInt64 → Except LoadFailure Unit
  | none => .ok ()
  | some actual =>
    match header.descriptorSize layout with
    | .error cause => .error (.header cause)
    | .ok expected => if actual = expected then .ok () else .error (.sizeMismatch expected actual)

/-- Obtains a buffer, or names the one that cannot be had. -/
def reserve (reservation : Reservation) (buffer : Buffer) (length : UInt64) (size : Nat) :
    Except LoadFailure Unit :=
  if reservation length.toNat size then .ok () else .error (.allocation buffer length)

/-- `count` consecutive fields of `width` bytes. -/
def fields (width : Nat) : (count : Nat) → Bytes → List UInt64
  | 0, _ => []
  | count + 1, bytes => Field.decode width bytes :: fields width count (bytes.drop width)

/-- Every entry, the first at `index` of its table, names a cell of the memory. -/
def checkEntries (table : Table) (memory : UInt64) (index : Nat) :
    List UInt64 → Except LoadFailure Unit
  | [] => .ok ()
  | address :: rest =>
    if address < memory then checkEntries table memory (index + 1) rest
    else .error (.addressOutOfRange table index address memory)

/-- Reads the remaining entries of a table. A whole group is read before its entries are checked. -/
def readEntries (table : Table) (header : Header) (remaining : Nat) (entries : Array UInt64)
    (source : ByteSource) : Except LoadFailure (List UInt64 × ByteSource) :=
  if remaining = 0 then .ok (entries.toList, source)
  else
    let count := min remaining entriesPerRead
    match readPart .addressTable (count * header.widths.address) source with
    | .error failure => .error failure
    | .ok (bytes, source) =>
      let group := fields header.widths.address count bytes
      match checkEntries table header.memory entries.size group with
      | .error failure => .error failure
      | .ok () => readEntries table header (remaining - count) (entries ++ group) source
termination_by remaining
decreasing_by unfold entriesPerRead; omega

/-- Reads one address table. -/
def readTable (reservation : Reservation) (table : Table) (header : Header) (count : UInt64)
    (source : ByteSource) : Except LoadFailure (List UInt64 × ByteSource) := do
  reserve reservation (.table table) count 8
  readEntries table header count.toNat #[] source

/-- Counts the gates of a stream; each has to be well formed and to stay inside the memory. -/
def countGates (memory : UInt64) (count : Nat) :
    List (Except Malformed Gate) → Except LoadFailure Nat
  | [] => .ok count
  | .error cause :: _ => .error (.opcodes cause)
  | .ok gate :: rest =>
    match gate.check memory with
    | .error cause => .error (.opcodes cause)
    | .ok () => countGates memory (count + 1) rest

/-- Reads and checks the opcode stream. -/
def readStream (reservation : Reservation) (header : Header) (source : ByteSource) :
    Except LoadFailure (Bytes × ByteSource) := do
  reserve reservation .opcodes header.streamSize 1
  match source.fill header.streamSize.toNat with
  | (.failed cause, _) => .error (.unreadable cause)
  | (.short _, _) => .error (.truncated .opcodeStream)
  | (.complete stream, source) =>
    let count ← countGates header.memory 0 (GateStream.items header.widths stream)
    if count = header.gateCount.toNat then .ok (stream, source)
    else .error (.gateCount header.gateCount (UInt64.ofNat count))

/-- Nothing may follow. -/
def checkEnd (source : ByteSource) : Except LoadFailure Unit :=
  match source.fill 1 with
  | (.complete _, _) => .error .trailingBytes
  | (.short _, _) => .ok ()
  | (.failed cause, _) => .error (.unreadable cause)

/-- Loads a circuit from a stream. A known length is checked before any buffer is reserved. -/
def read (lanes : Lanes) (reservation : Reservation) (length : Option UInt64)
    (source : ByteSource) : Except LoadFailure (Circuit lanes) := do
  let (layout, header, source) ← readHeader source
  checkLength layout header length
  let (inputs, source) ← readTable reservation .input header header.inputCount source
  let (outputs, source) ← readTable reservation .output header header.outputCount source
  let (stream, source) ← readStream reservation header source
  checkEnd source
  reserve reservation .ram header.memory lanes.bytes
  .ok ⟨header, inputs, outputs, stream, Ram.zeros lanes header.memory.toNat⟩

/-- Loads a circuit from a file, given what opening the file gave. -/
def load (lanes : Lanes) (reservation : Reservation) (path : String)
    (opened : Except IoFailure OpenedFile) : Except LoadFailure (Circuit lanes) :=
  match opened with
  | .error cause => .error (.unopened path cause)
  | .ok file => read lanes reservation (some file.length) file.source

end Circuit

end Bitslice
