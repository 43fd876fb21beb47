import Bitslice.Descriptor.Layout
import Bitslice.Gate.Record

/-!
# Descriptor headers

A header counts what follows it: input and output wires, gates, bytes of the
opcode stream, and memory cells. All arithmetic is on exact integers; a size
that needs more than 64 bits is refused as an overflow.
-/

namespace Bitslice

/-- What a descriptor says about its circuit before the tables. -/
structure Header where
  /-- The number of input wires. -/
  inputCount : UInt64
  /-- The number of output wires. -/
  outputCount : UInt64
  /-- The number of gates. -/
  gateCount : UInt64
  /-- The number of bytes of the opcode stream. -/
  streamSize : UInt64
  /-- The number of memory cells. -/
  memory : UInt64
  /-- The widths of tags and addresses. -/
  widths : Widths
  deriving DecidableEq, Repr

namespace Header

/-- The bytes that hold one instance's input bits. -/
def inputBytes (header : Header) : Nat :=
  (header.inputCount.toNat + 7) / 8

/-- The bytes that hold one instance's output bits. -/
def outputBytes (header : Header) : Nat :=
  (header.outputCount.toNat + 7) / 8

/-- A size as a 64-bit number, or an overflow under the given name. -/
def checkedSize (what : String) (size : Nat) : Except Malformed UInt64 :=
  if size < UInt64.size then .ok (UInt64.ofNat size) else .error (.overflow what)

/-- The bytes of both address tables and the opcode stream. -/
def bodySize (header : Header) : Except Malformed UInt64 :=
  checkedSize "descriptor body"
    ((header.inputCount.toNat + header.outputCount.toNat) * header.widths.address
      + header.streamSize.toNat)

/-- The bytes of the whole descriptor in a layout. -/
def descriptorSize (header : Header) (layout : Layout) : Except Malformed UInt64 := do
  let body ← header.bodySize
  checkedSize "descriptor" (body.toNat + layout.headerSize)

/-- The bytes of the given number of records if each had only a destination. -/
def leastStream (header : Header) : Nat :=
  header.gateCount.toNat * (header.widths.opcode + header.widths.address)

/-- The bytes of the given number of records if each had two sources. -/
def greatestStream (header : Header) : Nat :=
  header.gateCount.toNat * (header.widths.opcode + 3 * header.widths.address)

/-- The stream can hold the given number of records, whatever their operators. -/
def checkStream (header : Header) : Except Malformed Unit := do
  let _ ← checkedSize "opcode stream" header.greatestStream
  if header.leastStream ≤ header.streamSize.toNat ∧ header.streamSize.toNat ≤ header.greatestStream
  then .ok ()
  else .error (.streamSize header.gateCount header.streamSize)

/-- The memory can be addressed, the stream size is possible and the body size has 64 bits. -/
def check (header : Header) : Except Malformed Unit := do
  header.widths.checkAddressing header.memory
  header.checkStream
  let _ ← header.bodySize
  .ok ()

/-- The five counts in the order they are stored. -/
def counts (header : Header) : List UInt64 :=
  [header.inputCount, header.outputCount, header.gateCount, header.streamSize, header.memory]

/-- The header in a layout. The fixed layout has no room for other widths than its own. -/
def encode (header : Header) (layout : Layout) : Except Malformed Bytes :=
  let counts := header.counts.flatMap fun count => Field.digits 8 count.toNat
  match layout with
  | .selfDescribing =>
    .ok (Layout.magic ++ [Layout.version, UInt8.ofNat header.widths.opcode,
      UInt8.ofNat header.widths.address, 0] ++ counts)
  | .fixed =>
    if header.widths = Widths.fixed then .ok counts
    else .error (.width "address" header.widths.address)

/-- The widths that the eight leading bytes of a self-describing header declare. -/
def declaredWidths : Bytes → Except Malformed Widths
  | [m0, m1, m2, m3, version, opcode, address, reserved] =>
    if [m0, m1, m2, m3] ≠ Layout.magic then .error (.magic Layout.magic [m0, m1, m2, m3])
    else if version ≠ Layout.version then .error (.version version)
    else do
      let widths ← Widths.ofCounts opcode.toNat address.toNat
      if reserved ≠ 0 then .error (.reserved reserved) else .ok widths
  | short => .error (.shortHeader 8 short.length)

/-- The widths of a header in a layout, and the bytes of its five counts. -/
def splitWidths (layout : Layout) (bytes : Bytes) : Except Malformed (Widths × Bytes) :=
  match layout with
  | .fixed => .ok (Widths.fixed, bytes)
  | .selfDescribing => do
    let widths ← declaredWidths (bytes.take 8)
    .ok (widths, bytes.drop 8)

/-- The count at an index among the five. -/
def countAt (bytes : Bytes) (index : Nat) : UInt64 :=
  Field.decode 8 (bytes.drop (8 * index))

/-- The header at the front of `bytes`, read in a layout and checked. -/
def decode (layout : Layout) (bytes : Bytes) : Except Malformed Header := do
  if bytes.length < layout.headerSize then
    .error (.shortHeader layout.headerSize bytes.length)
  else
    let (widths, counts) ← splitWidths layout bytes
    let header : Header :=
      { inputCount := countAt counts 0
        outputCount := countAt counts 1
        gateCount := countAt counts 2
        streamSize := countAt counts 3
        memory := countAt counts 4
        widths }
    header.check
    .ok header

end Header

end Bitslice
