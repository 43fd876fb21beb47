import Bitslice.Descriptor.Malformed
import Bitslice.Stream.Failure

/-!
# Why a descriptor does not load
-/

namespace Bitslice

/-- The parts of a descriptor that can end too early. -/
inductive Section where
  /-- The header. -/
  | header
  /-- One of the two address tables. -/
  | addressTable
  /-- The opcode stream. -/
  | opcodeStream
  deriving DecidableEq, Repr

/-- The name of a part in messages. -/
def Section.name : Section → String
  | header => "header"
  | addressTable => "address table"
  | opcodeStream => "opcode stream"

/-- The two address tables. -/
inductive Table where
  /-- The cells that receive the input bits. -/
  | input
  /-- The cells that hold the output bits. -/
  | output
  deriving DecidableEq, Repr

/-- The name of a table in messages. -/
def Table.name : Table → String
  | input => "input"
  | output => "output"

/-- The buffers that loading reserves. -/
inductive Buffer where
  /-- The addresses of a table. -/
  | table (table : Table)
  /-- The opcode stream. -/
  | opcodes
  /-- The memory cells. -/
  | ram
  deriving DecidableEq, Repr

/-- The name of a buffer in messages. -/
def Buffer.name : Buffer → String
  | .table entries => entries.name
  | .opcodes => "opcodes"
  | .ram => "ram"

/-- A descriptor that does not load. -/
inductive LoadFailure where
  /-- The file cannot be opened. -/
  | unopened (path : String) (cause : IoFailure)
  /-- A read failed. -/
  | unreadable (cause : IoFailure)
  /-- The bytes ended inside a part. -/
  | truncated (part : Section)
  /-- The header is malformed. -/
  | header (cause : Malformed)
  /-- The descriptor has another length than its header declares. -/
  | sizeMismatch (expected actual : UInt64)
  /-- A table names a cell outside the memory. -/
  | addressOutOfRange (table : Table) (index : Nat) (address memory : UInt64)
  /-- A gate record is malformed or uses a cell outside the memory. -/
  | opcodes (cause : Malformed)
  /-- The stream holds another number of gates than the header declares. -/
  | gateCount (expected actual : UInt64)
  /-- Something follows the opcode stream. -/
  | trailingBytes
  /-- A buffer cannot be had. -/
  | allocation (buffer : Buffer) (length : UInt64)
  deriving DecidableEq, Repr

namespace LoadFailure

/-- The wording of each failure. -/
def message : LoadFailure → String
  | .unopened path cause => s!"failed to open {path}: {cause.message}"
  | .unreadable cause => s!"I/O error reading descriptor: {cause.message}"
  | .truncated part => s!"descriptor truncated while reading {part.name}"
  | .header cause => s!"malformed header: {cause.message}"
  | .sizeMismatch expected actual =>
    s!"descriptor is {actual.toNat} bytes but its header declares {expected.toNat}"
  | .addressOutOfRange table index address memory =>
    s!"{table.name} address #{index} is {address.toNat}, memory holds {memory.toNat} cells"
  | .opcodes cause => s!"invalid opcode stream: {cause.message}"
  | .gateCount expected actual =>
    s!"opcode stream holds {actual.toNat} gates but the header declares {expected.toNat}"
  | .trailingBytes => "unexpected bytes after the opcode stream"
  | .allocation buffer length =>
    s!"failed to allocate {buffer.name} buffer of {length.toNat} elements"

/-- The failure's message, followed by that of the failure that caused it. -/
def messages (failure : LoadFailure) : List String :=
  failure.message ::
    match failure with
    | .unopened _ cause => [cause.message]
    | .unreadable cause => [cause.message]
    | .header cause => [cause.message]
    | .opcodes cause => [cause.message]
    | _ => []

end LoadFailure

end Bitslice
