/-!
# Little-endian byte fields

An unsigned field of `width` bytes stores its value least significant byte
first. `Field.digits` lists the bytes of a value, `Field.value` reads them
back, and `Field.capacity` counts the values a width can hold.
-/

namespace Bitslice

/-- A sequence of bytes, first byte first. -/
abbrev Bytes := List UInt8

namespace Field

/-- The number of different values a field of `width` bytes can hold: a factor of 256 for each. -/
def capacity : (width : Nat) → Nat
  | 0 => 1
  | width + 1 => 256 * capacity width

/-- The lowest `width` base-256 digits of `number`, least significant first. -/
def digits : (width : Nat) → (number : Nat) → Bytes
  | 0, _ => []
  | width + 1, number => UInt8.ofNat number :: digits width (number / 256)

/-- The number whose base-256 digits are `bytes`, least significant first. -/
def value : Bytes → Nat
  | [] => 0
  | byte :: rest => byte.toNat + 256 * value rest

/-- The number of base-256 digits that write `largest`, and at least one. -/
def widthOf (largest : Nat) : Nat :=
  largest.log2 / 8 + 1

/-- The largest 64-bit number that a field of `width` bytes can hold. -/
def largest (width : Nat) : UInt64 :=
  UInt64.ofNat (min (capacity width) UInt64.size - 1)

/-- The first `width` bytes read as one 64-bit number. -/
def decode (width : Nat) (bytes : Bytes) : UInt64 :=
  UInt64.ofNat (value (bytes.take width))

/-- Splits off exactly `count` leading bytes, or answers `none` when fewer are left. -/
def split? (count : Nat) (bytes : Bytes) : Option (Bytes × Bytes) :=
  let leading := bytes.take count
  if leading.length = count then some (leading, bytes.drop count) else none

/-- Splits off `count` consecutive fields of `width` bytes each. -/
def splitMany? (width : Nat) : (count : Nat) → Bytes → Option (List UInt64 × Bytes)
  | 0, bytes => some ([], bytes)
  | count + 1, bytes =>
    match split? width bytes with
    | none => none
    | some (leading, later) =>
      match splitMany? width count later with
      | none => none
      | some (fields, rest) => some (decode width leading :: fields, rest)

/-- Every field holds exactly as many bytes as its width. -/
@[simp] theorem length_digits (width number : Nat) : (digits width number).length = width := by
  induction width generalizing number with
  | zero => rfl
  | succ width ih => simp [digits, ih]

/-- What is split off and what is left make up the input. -/
theorem append_of_split? {count : Nat} {bytes leading rest : Bytes}
    (split : split? count bytes = some (leading, rest)) :
    leading ++ rest = bytes ∧ leading.length = count := by
  simp only [split?] at split
  split at split
  · next sized =>
    obtain ⟨rfl, rfl⟩ := Prod.mk.inj (Option.some.inj split)
    exact ⟨List.take_append_drop count bytes, sized⟩
  · cases split

/-- A split removes exactly the asked number of bytes. -/
theorem length_of_split? {count : Nat} {bytes leading rest : Bytes}
    (split : split? count bytes = some (leading, rest)) :
    rest.length + count = bytes.length := by
  obtain ⟨rfl, rfl⟩ := append_of_split? split
  simp [Nat.add_comm]

/-- Reading several fields removes exactly their bytes. -/
theorem length_of_splitMany? {width count : Nat} {bytes rest : Bytes} {fields : List UInt64}
    (split : splitMany? width count bytes = some (fields, rest)) :
    rest.length + count * width = bytes.length := by
  induction count generalizing bytes fields with
  | zero =>
    simp only [splitMany?, Option.some.injEq, Prod.mk.injEq] at split
    simp [split.2]
  | succ count ih =>
    simp only [splitMany?] at split
    split at split
    · cases split
    · next leading later first =>
      split at split
      · cases split
      · next fields rest others =>
        obtain ⟨rfl, rfl⟩ := Prod.mk.inj (Option.some.inj split)
        have laterLength := ih others
        have firstLength := length_of_split? first
        rw [Nat.succ_mul]
        omega

end Field

end Bitslice
