import Bitslice.Field

/-!
# Bits in bytes

Wires are stored eight to a byte, most significant bit first: wire `k` is bit
`7 - k % 8` of byte `k / 8`. `Bits.toBytes` fills the last byte up with zeros,
and `Bits.ofBytes` lists every bit of a byte sequence.
-/

namespace Bitslice.Bits

/-- The byte whose bits, from the most significant on, are the first eight of `bits`; missing
bits are zero. -/
def octet (bits : List Bool) : UInt8 :=
  UInt8.ofNat ((List.range 8).foldl
    (fun number index => 2 * number + (bits.getD index false).toNat) 0)

/-- The eight bits of a byte, most significant first. -/
def ofByte (byte : UInt8) : List Bool :=
  (List.range 8).map fun index => byte.toNat.testBit (7 - index)

/-- The bits of all bytes in order. -/
def ofBytes (bytes : Bytes) : List Bool :=
  bytes.flatMap ofByte

/-- The bytes that hold the bits in order, the last one filled up with zeros. -/
def toBytes (bits : List Bool) : Bytes :=
  match bits with
  | [] => []
  | bit :: rest => octet ((bit :: rest).take 8) :: toBytes (rest.drop 7)
termination_by bits.length
decreasing_by simp only [List.length_drop, List.length_cons]; omega

/-- Exactly `count` bytes: those that hold the bits, followed by zeros. -/
def row (count : Nat) (bits : List Bool) : Bytes :=
  (toBytes bits ++ List.replicate count 0).take count

/-- The complete rows of `size` bytes at the front of a buffer, at most `count` of them. -/
def rows (size : Nat) : (count : Nat) → Bytes → List Bytes
  | 0, _ => []
  | count + 1, bytes =>
    match Field.split? size bytes with
    | none => []
    | some (row, later) => row :: rows size count later

end Bitslice.Bits
