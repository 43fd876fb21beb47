import Bitslice.Proofs.Bits
import Bitslice.Random.Generator

/-!
# Plaintexts are pieces of one stream

The bytes of a seed are the front of an endless stream: asking for more of them
does not change the first ones (`Generator.take_bytesOfSeed`). The plaintexts
of a campaign are consecutive pieces of this stream, so each depends on its
number and not on how many there are.
-/

namespace Bitslice

namespace Generator

/-- The first blocks of a key's keystream as bytes. -/
def blockBytes (key : Key) (blocks : Nat) : Bytes :=
  ((List.range blocks).flatMap fun number => (Keystream.block key number).toList).flatMap
    fun word => Field.digits 4 word.toNat

theorem length_blockBytes (key : Key) (blocks : Nat) :
    (blockBytes key blocks).length = 64 * blocks := by
  have words : ((List.range blocks).flatMap fun number =>
      (Keystream.block key number).toList).length = 16 * blocks := by
    simp [List.length_flatMap, List.map_const', Nat.mul_comm]
  rw [blockBytes, List.length_flatMap]
  simp only [Field.length_digits, List.map_const', List.sum_replicate_nat, words]
  omega

theorem blockBytes_append (key : Key) (blocks more : Nat) :
    ∃ rest, blockBytes key (blocks + more) = blockBytes key blocks ++ rest := by
  rw [blockBytes, List.range_add, List.flatMap_append, List.flatMap_append, ← blockBytes]
  exact ⟨_, rfl⟩

/-- Any number of blocks that is large enough gives the same bytes. -/
theorem bytesOfSeed_eq_take (seed : UInt64) {count blocks : Nat} (enough : count ≤ 64 * blocks) :
    bytesOfSeed seed count = (blockBytes (Keystream.keyOfSeed seed) blocks).take count := by
  have least : (count + 63) / 64 ≤ blocks := by omega
  obtain ⟨more, rfl⟩ := Nat.exists_eq_add_of_le least
  obtain ⟨rest, whole⟩ := blockBytes_append (Keystream.keyOfSeed seed) ((count + 63) / 64) more
  have within : count ≤ (blockBytes (Keystream.keyOfSeed seed) ((count + 63) / 64)).length := by
    rw [length_blockBytes]
    omega
  rw [whole, List.take_append_of_le_length within]
  rfl

@[simp] theorem length_bytesOfSeed (seed : UInt64) (count : Nat) :
    (bytesOfSeed seed count).length = count := by
  have enough : count ≤ 64 * count := by omega
  rw [bytesOfSeed_eq_take seed enough, List.length_take, length_blockBytes,
    Nat.min_eq_left enough]

/-- Asking for more bytes does not change the first ones. -/
theorem take_bytesOfSeed (seed : UInt64) {count more : Nat} (fewer : count ≤ more) :
    (bytesOfSeed seed more).take count = bytesOfSeed seed count := by
  have enough : more ≤ 64 * more := by omega
  rw [bytesOfSeed_eq_take seed enough, bytesOfSeed_eq_take seed (Nat.le_trans fewer enough),
    List.take_take, Nat.min_eq_left fewer]

/-- The bytes of a seed's stream from the position `first` up to the position `last`. -/
def slice (seed : UInt64) (first last : Nat) : Bytes :=
  (bytesOfSeed seed last).drop first

theorem bytesOfSeed_append_slice (seed : UInt64) {first last : Nat} (ordered : first ≤ last) :
    bytesOfSeed seed first ++ slice seed first last = bytesOfSeed seed last := by
  rw [slice, ← take_bytesOfSeed seed ordered, List.take_append_drop]

end Generator

namespace Campaign

/-- The plaintext with a number: so many bytes of the stream, behind those of the plaintexts
before. -/
def plaintext (seed : UInt64) (inputBytes number : Nat) : Bytes :=
  Generator.slice seed (number * inputBytes) ((number + 1) * inputBytes)

/-- The first plaintexts. -/
def plaintexts (seed : UInt64) (inputBytes count : Nat) : List Bytes :=
  (List.range count).map (plaintext seed inputBytes)

@[simp] theorem length_plaintext (seed : UInt64) (inputBytes number : Nat) :
    (plaintext seed inputBytes number).length = inputBytes := by
  rw [plaintext, Generator.slice, List.length_drop, Generator.length_bytesOfSeed, Nat.succ_mul,
    Nat.add_sub_cancel_left]

@[simp] theorem length_plaintexts (seed : UInt64) (inputBytes count : Nat) :
    (plaintexts seed inputBytes count).length = count := by
  rw [plaintexts, List.length_map, List.length_range]

theorem length_of_mem_plaintexts {seed : UInt64} {inputBytes count : Nat} {text : Bytes}
    (member : text ∈ plaintexts seed inputBytes count) : text.length = inputBytes := by
  obtain ⟨number, -, rfl⟩ := List.mem_map.mp member
  exact length_plaintext seed inputBytes number

/-- More plaintexts begin with the same ones. -/
theorem plaintexts_append (seed : UInt64) (inputBytes : Nat) {count longer : Nat}
    (fewer : count ≤ longer) :
    ∃ more, plaintexts seed inputBytes longer = plaintexts seed inputBytes count ++ more := by
  obtain ⟨added, rfl⟩ := Nat.exists_eq_add_of_le fewer
  rw [plaintexts, List.range_add, List.map_append, plaintexts]
  exact ⟨_, rfl⟩

/-- The plaintexts one behind the other are the front of the stream. -/
theorem flatten_plaintexts (seed : UInt64) (inputBytes count : Nat) :
    (plaintexts seed inputBytes count).flatten =
      Generator.bytesOfSeed seed (count * inputBytes) := by
  induction count with
  | zero =>
    rw [Nat.zero_mul]
    rfl
  | succ count ih =>
    rw [plaintexts, List.range_succ, List.map_append, List.flatten_append, ← plaintexts, ih,
      List.map_singleton, List.flatten_singleton, plaintext]
    exact Generator.bytesOfSeed_append_slice seed (Nat.mul_le_mul_right _ (Nat.le_succ count))

/-- The rows of the stream's front are the plaintexts. -/
theorem rows_bytesOfSeed (seed : UInt64) (inputBytes count : Nat) :
    Bits.rows inputBytes count (Generator.bytesOfSeed seed (count * inputBytes)) =
      plaintexts seed inputBytes count := by
  have sized : ∀ text ∈ plaintexts seed inputBytes count, text.length = inputBytes :=
    fun _ => length_of_mem_plaintexts
  have cut := Bits.rows_flatten sized []
  rwa [length_plaintexts, List.append_nil, flatten_plaintexts] at cut

end Campaign

end Bitslice
