import Bitslice.Field

/-!
# Registers

A register holds one bit for each of several instances that run side by side.
Its lanes are numbered from the least significant bit, and lane numbers wrap
around the register. Operators act on all lanes at once and never mix them.
-/

namespace Bitslice

/-- The sizes a register can have. -/
inductive Lanes where
  /-- One instance. -/
  | one
  /-- Eight instances. -/
  | eight
  /-- Sixteen instances. -/
  | sixteen
  /-- Thirty-two instances. -/
  | thirtyTwo
  /-- Sixty-four instances. -/
  | sixtyFour
  /-- One hundred and twenty-eight instances. -/
  | oneTwentyEight
  deriving DecidableEq, Repr

namespace Lanes

/-- The number of lanes. -/
def count : Lanes → Nat
  | one => 1
  | eight => 8
  | sixteen => 16
  | thirtyTwo => 32
  | sixtyFour => 64
  | oneTwentyEight => 128

/-- The bytes of one stored register. A single lane takes a whole byte. -/
def bytes : Lanes → Nat
  | one => 1
  | eight => 1
  | sixteen => 2
  | thirtyTwo => 4
  | sixtyFour => 8
  | oneTwentyEight => 16

/-- The random words that one register uses up. -/
def words : Lanes → Nat
  | sixtyFour => 2
  | oneTwentyEight => 4
  | _ => 1

/-- A stored register is never empty. -/
theorem bytes_pos (lanes : Lanes) : 0 < lanes.bytes := by
  cases lanes <;> decide

end Lanes

/-- One bit for each lane. -/
abbrev Register (lanes : Lanes) := BitVec lanes.count

namespace Register

/-- The bit of a lane. -/
def lane {lanes : Lanes} (register : Register lanes) (index : Nat) : Bool :=
  register.getLsbD (index % lanes.count)

/-- The register with one lane replaced. -/
def setLane {lanes : Lanes} (register : Register lanes) (index : Nat) (bit : Bool) :
    Register lanes :=
  let mask := BitVec.twoPow lanes.count (index % lanes.count)
  if bit then register ||| mask else register &&& ~~~mask

/-- The bits of all lanes, lane zero first. -/
def toBits {lanes : Lanes} (register : Register lanes) : List Bool :=
  (List.range lanes.count).map register.lane

/-- The register's stored form, least significant byte first. -/
def encode {lanes : Lanes} (register : Register lanes) : Bytes :=
  Field.digits lanes.bytes register.toNat

/-- The register that stored bytes stand for; bits beyond its lanes are ignored. -/
def decode (lanes : Lanes) (bytes : Bytes) : Register lanes :=
  BitVec.ofNat lanes.count (Field.value bytes)

/-- The register made of random words, least significant word first; surplus bits are dropped. -/
def ofWords (lanes : Lanes) (words : List UInt32) : Register lanes :=
  BitVec.ofNat lanes.count (words.foldr (fun word higher => word.toNat + UInt32.size * higher) 0)

/-- A stored register has the size of its lanes. -/
@[simp] theorem length_encode {lanes : Lanes} (register : Register lanes) :
    register.encode.length = lanes.bytes := by
  simp [encode]

end Register

end Bitslice
