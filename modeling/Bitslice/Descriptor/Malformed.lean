import Bitslice.Hex

/-!
# What can be wrong with a descriptor field

Each cause carries what its message needs; `Malformed.message` words them
all.
-/

namespace Bitslice

/-- A malformed field of a circuit descriptor. -/
inductive Malformed where
  /-- The leading bytes are not those of a self-describing descriptor. -/
  | magic (expected got : Bytes)
  /-- A descriptor of a version other than the current one. -/
  | version (found : UInt8)
  /-- A field width outside one to eight bytes. -/
  | width (field : String) (width : Nat)
  /-- The reserved header byte is in use. -/
  | reserved (found : UInt8)
  /-- A value too large for its field. -/
  | unrepresentable (value : UInt64) (width : Nat)
  /-- A record whose tag names no operator. -/
  | invalidOpcode (tag : UInt64) (offset : Nat)
  /-- A record that runs past the end of its stream. -/
  | truncated (offset needed available : Nat)
  /-- A stream size that no such number of records can have. -/
  | streamSize (gateCount streamSize : UInt64)
  /-- A header with too few bytes. -/
  | shortHeader (needed got : Nat)
  /-- An address at or above the memory size. -/
  | addressOutOfRange (field : String) (address memory : UInt64)
  /-- A memory with cells that the address width cannot name. -/
  | memoryTooLarge (memory : UInt64) (width : Nat)
  /-- A size of more than 64 bits. -/
  | overflow (what : String)
  deriving DecidableEq, Repr

namespace Malformed

/-- Bytes as a bracketed list of decimal numbers. -/
def listed (bytes : Bytes) : String :=
  "[" ++ ", ".intercalate (bytes.map fun byte => toString byte.toNat) ++ "]"

/-- The wording of each cause. -/
def message : Malformed → String
  | .magic expected got =>
    "invalid magic bytes: expected " ++ listed expected ++ ", got " ++ listed got
  | .version found => s!"unsupported format version {found.toNat}"
  | .width field count => s!"{field} width must be between 1 and 8 bytes, got {count}"
  | .reserved found => "reserved header byte must be zero, got 0x" ++ Hex.ofBytes [found]
  | .unrepresentable value count => s!"value {value.toNat} does not fit in {count} byte(s)"
  | .invalidOpcode tag offset => s!"invalid opcode tag {tag.toNat} at stream offset {offset}"
  | .truncated offset needed available =>
    s!"gate record at stream offset {offset} needs {needed} bytes, {available} left"
  | .streamSize gateCount size =>
    s!"{size.toNat} bytes cannot hold {gateCount.toNat} gate records"
  | .shortHeader needed got => s!"insufficient bytes for header: need {needed}, got {got}"
  | .addressOutOfRange field address memory =>
    s!"{field} address {address.toNat} exceeds memory size {memory.toNat}"
  | .memoryTooLarge memory count =>
    s!"memory size {memory.toNat} is not addressable with {count} byte addresses"
  | .overflow what => s!"size of {what} overflows"

end Malformed

end Bitslice
