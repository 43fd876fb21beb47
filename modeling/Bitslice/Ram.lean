import Bitslice.Bits
import Bitslice.Register

/-!
# Working memory

A `Ram` is a row of registers. Packing spreads the bits of each instance over
one lane of the input cells, unpacking gathers them from the output cells.
Instance `i` lives in lane `i` and occupies row `i` of its byte buffer.
-/

namespace Bitslice

/-- The memory cells of a circuit. -/
abbrev Ram (lanes : Lanes) := Array (Register lanes)

namespace Ram

variable {lanes : Lanes}

/-- A memory of zero registers. -/
def zeros (lanes : Lanes) (cells : Nat) : Ram lanes :=
  Array.replicate cells 0

/-- The same cells, all zero. -/
def cleared (ram : Ram lanes) : Ram lanes :=
  zeros lanes ram.size

/-- The register of a cell; zero outside the memory. -/
def cell (ram : Ram lanes) (address : UInt64) : Register lanes :=
  ram.getD address.toNat 0

/-- The memory with one cell written. Nothing is written outside the memory. -/
def write (ram : Ram lanes) (address : UInt64) (register : Register lanes) : Ram lanes :=
  ram.setIfInBounds address.toNat register

/-- Stores the bits of one instance into a lane of the listed cells, in the order of the list. -/
def storeLane (ram : Ram lanes) (lane : Nat) : List (UInt64 × Bool) → Ram lanes
  | [] => ram
  | (address, bit) :: rest =>
    storeLane (ram.modify address.toNat fun register => register.setLane lane bit) lane rest

/-- Stores rows into consecutive lanes, from the given lane on. -/
def storeRows (ram : Ram lanes) (table : List UInt64) (lane : Nat) : List Bytes → Ram lanes
  | [] => ram
  | row :: later =>
    storeRows (ram.storeLane lane (table.zip (Bits.ofBytes row))) table (lane + 1) later

/-- Packs up to `batch` instances of `size` bytes into the input cells. Lanes without an instance
keep what they hold. -/
def pack (ram : Ram lanes) (table : List UInt64) (inputs : Bytes) (size batch : Nat) : Ram lanes :=
  if size = 0 then ram else ram.storeRows table 0 (Bits.rows size batch inputs)

/-- The bits of one lane in the listed cells. -/
def laneBits (ram : Ram lanes) (table : List UInt64) (lane : Nat) : List Bool :=
  table.map fun address => (ram.cell address).lane lane

/-- Unpacks up to `batch` instances over the front of a buffer of rows of `size` bytes. Bits
without a wire become zero; bytes behind the last complete row stay. -/
def unpack (ram : Ram lanes) (table : List UInt64) (outputs : Bytes) (size batch : Nat) : Bytes :=
  if size = 0 then outputs
  else
    let count := min batch (outputs.length / size)
    (List.range count).flatMap (fun lane => Bits.row size (ram.laneBits table lane))
      ++ outputs.drop (count * size)

/-- The cells that are not zero, with their addresses. -/
def nonzero (ram : Ram lanes) : List (Nat × Register lanes) :=
  ram.toList.zipIdx.filterMap fun (register, address) =>
    if register = 0 then none else some (address, register)

end Ram

end Bitslice
