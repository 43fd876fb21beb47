import Bitslice.Descriptor.Malformed
import Bitslice.Field

/-!
# Field widths

A descriptor chooses how many bytes hold an operator tag and how many hold an
address. Both lie between one and eight, and `Widths` carries the proof, so
every function below may rely on it.
-/

namespace Bitslice

/-- The byte widths of operator tags and of addresses. -/
structure Widths where
  /-- Bytes of an operator tag. -/
  opcode : Nat
  /-- Bytes of an address. -/
  address : Nat
  /-- Operator tags take one to eight bytes. -/
  opcode_bounded : 1 ≤ opcode ∧ opcode ≤ 8
  /-- Addresses take one to eight bytes. -/
  address_bounded : 1 ≤ address ∧ address ≤ 8
  deriving DecidableEq, Repr

namespace Widths

/-- The fixed layout has tags of one byte and addresses of two. -/
def fixed : Widths :=
  ⟨1, 2, by decide, by decide⟩

/-- Widths from two byte counts; of two bad counts the tag's is reported. -/
def ofCounts (opcode address : Nat) : Except Malformed Widths :=
  if opcodeBounded : 1 ≤ opcode ∧ opcode ≤ 8 then
    if addressBounded : 1 ≤ address ∧ address ≤ 8 then
      .ok ⟨opcode, address, opcodeBounded, addressBounded⟩
    else .error (.width "address" address)
  else .error (.width "opcode" opcode)

/-- A 64-bit number has at most eight base-256 digits. -/
theorem widthOf_bounded {number : Nat} (bounded : number < UInt64.size) :
    1 ≤ Field.widthOf number ∧ Field.widthOf number ≤ 8 := by
  have logBounded : number.log2 < 64 := by
    by_cases zero : number = 0
    · subst zero; decide
    · exact (Nat.log2_lt zero).mpr bounded
  unfold Field.widthOf
  omega

/-- Tags of one byte, and the narrowest addresses that name every cell of the memory. -/
def minimal (memory : UInt64) : Widths where
  opcode := 1
  address := Field.widthOf (memory.toNat - 1)
  opcode_bounded := by decide
  address_bounded := widthOf_bounded (Nat.lt_of_le_of_lt (Nat.sub_le _ _) memory.toNat_lt)

/-- The largest tag value. -/
def largestTag (widths : Widths) : UInt64 :=
  Field.largest widths.opcode

/-- The largest address. -/
def largestAddress (widths : Widths) : UInt64 :=
  Field.largest widths.address

/-- Every cell `0, …, memory - 1` has an address of these widths. -/
def checkAddressing (widths : Widths) (memory : UInt64) : Except Malformed Unit :=
  if memory.toNat ≤ Field.capacity widths.address then .ok ()
  else .error (.memoryTooLarge memory widths.address)

end Widths

namespace Field

/-- The bytes of a value in a field of `width` bytes; a value that does not fit is refused whole. -/
def encode (width : Nat) (number : UInt64) : Except Malformed Bytes :=
  if number.toNat < capacity width then .ok (digits width number.toNat)
  else .error (.unrepresentable number width)

end Field

end Bitslice
