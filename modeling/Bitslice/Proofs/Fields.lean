import Bitslice.Descriptor.Widths

/-!
# Fields hold their numbers exactly

A field of `width` bytes stores exactly the numbers below `Field.capacity width`,
each in one way. `Field.allDigits` is the text of several fields in a row, and
`splitMany?_eq_some_iff` says that reading them back accepts exactly that text.
-/

namespace Bitslice

namespace Field

/-- Several numbers in consecutive fields of one width. -/
def allDigits (width : Nat) (numbers : List UInt64) : Bytes :=
  numbers.flatMap fun number => digits width number.toNat

/-- Wider fields hold more. -/
theorem capacity_le_of_le {small large : Nat} (ordered : small ≤ large) :
    capacity small ≤ capacity large := by
  induction ordered with
  | refl => exact Nat.le_refl _
  | step _ ih => simp only [capacity]; omega

/-- No field of at most eight bytes holds a number of more than 64 bits. -/
theorem capacity_le_size {width : Nat} (bounded : width ≤ 8) : capacity width ≤ UInt64.size :=
  capacity_le_of_le bounded

/-- A field of at least one byte holds every number below 256. -/
theorem lt_capacity_of_lt {width number : Nat} (nonempty : 1 ≤ width) (small : number < 256) :
    number < capacity width :=
  Nat.lt_of_lt_of_le small (capacity_le_of_le nonempty)

theorem value_lt_capacity (bytes : Bytes) : value bytes < capacity bytes.length := by
  induction bytes with
  | nil => decide
  | cons byte rest ih =>
    have byteBounded := byte.toNat_lt
    simp only [value, List.length_cons, capacity]
    omega

/-- Reading digits back keeps what a field of their number can hold. -/
theorem value_digits_eq_mod (width number : Nat) :
    value (digits width number) = number % capacity width := by
  induction width generalizing number with
  | zero => simp only [digits, value, capacity, Nat.mod_one]
  | succ width ih =>
    have lowest : (UInt8.ofNat number).toNat = number % 256 := by simp
    rw [digits, value, ih, lowest, capacity, Nat.mod_mul]

/-- A number that fits is read back. -/
theorem value_digits {width number : Nat} (fits : number < capacity width) :
    value (digits width number) = number := by
  rw [value_digits_eq_mod, Nat.mod_eq_of_lt fits]

/-- The lowest digits are those of a narrower field. -/
theorem take_digits {small large : Nat} (ordered : small ≤ large) (number : Nat) :
    (digits large number).take small = digits small number := by
  induction small generalizing large number with
  | zero => rfl
  | succ small ih =>
    obtain _ | large := large
    · cases ordered
    · rw [digits, List.take_succ_cons, ih (Nat.le_of_succ_le_succ ordered), digits]

/-- Bytes are the digits of the number they stand for. -/
theorem digits_value (bytes : Bytes) : digits bytes.length (value bytes) = bytes := by
  induction bytes with
  | nil => rfl
  | cons byte rest ih =>
    have byteBounded := byte.toNat_lt
    have lowest : UInt8.ofNat (byte.toNat + 256 * value rest) = byte := by
      apply UInt8.toNat_inj.mp
      simp only [UInt8.toNat_ofNat']
      omega
    have higher : (byte.toNat + 256 * value rest) / 256 = value rest := by omega
    rw [List.length_cons, value, digits, lowest, higher, ih]

/-- Fields of one width with the same number have the same bytes. -/
theorem eq_of_value_eq {left right : Bytes} (lengths : left.length = right.length)
    (values : value left = value right) : left = right := by
  rw [← digits_value left, lengths, values, digits_value]

/-- A field of at most eight bytes is read without loss. -/
theorem toNat_decode {width : Nat} (bounded : width ≤ 8) (bytes : Bytes) :
    (decode width bytes).toNat = value (bytes.take width) := by
  have short : (bytes.take width).length ≤ 8 := by
    rw [List.length_take]
    omega
  have small : value (bytes.take width) < UInt64.size :=
    Nat.lt_of_lt_of_le (value_lt_capacity _) (capacity_le_size short)
  rw [decode]
  exact UInt64.toNat_ofNat_of_lt' small

/-- What was written is read back, whatever follows it. -/
theorem decode_digits_append {width : Nat} (bounded : width ≤ 8) {number : UInt64}
    (fits : number.toNat < capacity width) (rest : Bytes) :
    decode width (digits width number.toNat ++ rest) = number := by
  apply UInt64.toNat_inj.mp
  rw [toNat_decode bounded, List.take_left' (length_digits _ _), value_digits fits]

/-- A field that was read is written with the same bytes. -/
theorem digits_decode {width : Nat} (bounded : width ≤ 8) {bytes : Bytes}
    (sized : width ≤ bytes.length) :
    digits width (decode width bytes).toNat = bytes.take width := by
  have taken : (bytes.take width).length = width := by simp [sized]
  have same := digits_value (bytes.take width)
  rwa [taken, ← toNat_decode bounded] at same

/-- A field that was read holds no more than its width allows. -/
theorem toNat_decode_lt_capacity {width : Nat} (bounded : width ≤ 8) (bytes : Bytes) :
    (decode width bytes).toNat < capacity width := by
  have short : (bytes.take width).length ≤ width := by
    rw [List.length_take]
    omega
  rw [toNat_decode bounded]
  exact Nat.lt_of_lt_of_le (value_lt_capacity _) (capacity_le_of_le short)

theorem encode_eq_ok_iff {width : Nat} {number : UInt64} {bytes : Bytes} :
    encode width number = .ok bytes ↔
      number.toNat < capacity width ∧ bytes = digits width number.toNat := by
  unfold encode
  split
  · next fits => simp [fits, eq_comm]
  · next unfit => simp [unfit]

/-- A split succeeds exactly on sequences that start with so many bytes. -/
theorem split?_eq_some_iff {count : Nat} {bytes leading rest : Bytes} :
    split? count bytes = some (leading, rest) ↔
      bytes = leading ++ rest ∧ leading.length = count := by
  constructor
  · intro split
    obtain ⟨whole, sized⟩ := append_of_split? split
    exact ⟨whole.symm, sized⟩
  · rintro ⟨rfl, rfl⟩
    simp [split?]

theorem split?_eq_none_iff {count : Nat} {bytes : Bytes} :
    split? count bytes = none ↔ bytes.length < count := by
  unfold split?
  simp only [List.length_take]
  split
  · next enough =>
    simp only [reduceCtorEq, false_iff]
    omega
  · next short =>
    simp only [true_iff]
    omega

section Several

variable {width : Nat} {numbers : List UInt64}

@[simp] theorem allDigits_nil : allDigits width [] = [] := rfl

@[simp] theorem allDigits_cons (number : UInt64) :
    allDigits width (number :: numbers) = digits width number.toNat ++ allDigits width numbers :=
  rfl

@[simp] theorem allDigits_append (later : List UInt64) :
    allDigits width (numbers ++ later) = allDigits width numbers ++ allDigits width later :=
  List.flatMap_append

@[simp] theorem length_allDigits : (allDigits width numbers).length = numbers.length * width := by
  induction numbers with
  | nil => simp
  | cons number numbers ih => simp [ih, Nat.succ_mul, Nat.add_comm]

/-- Reading several fields accepts exactly the text of as many numbers that fit. -/
theorem splitMany?_eq_some_iff (bounded : width ≤ 8) {count : Nat} {bytes rest : Bytes} :
    splitMany? width count bytes = some (numbers, rest) ↔
      numbers.length = count ∧ (∀ number ∈ numbers, number.toNat < capacity width) ∧
        bytes = allDigits width numbers ++ rest := by
  induction count generalizing bytes numbers with
  | zero =>
    simp only [splitMany?, Option.some.injEq, Prod.mk.injEq]
    constructor
    · rintro ⟨rfl, rfl⟩
      simp
    · rintro ⟨none, -, rfl⟩
      obtain rfl := List.length_eq_zero_iff.mp none
      simp
  | succ count ih =>
    constructor
    · intro split
      simp only [splitMany?] at split
      split at split
      · cases split
      · next leading later first =>
        obtain ⟨rfl, sized⟩ := split?_eq_some_iff.mp first
        split at split
        · cases split
        · next fields rest others =>
          obtain ⟨rfl, rfl⟩ := Prod.mk.inj (Option.some.inj split)
          obtain ⟨counted, fit, rfl⟩ := ih.mp others
          refine ⟨by simp [counted], ?_, ?_⟩
          · rintro number (_ | ⟨_, member⟩)
            · exact toNat_decode_lt_capacity bounded leading
            · exact fit number member
          · rw [allDigits_cons, digits_decode bounded (Nat.le_of_eq sized.symm),
              List.take_of_length_le (Nat.le_of_eq sized), List.append_assoc]
    · rintro ⟨counted, fit, rfl⟩
      obtain _ | ⟨number, numbers⟩ := numbers
      · cases counted
      · have first : split? width (allDigits width (number :: numbers) ++ rest) =
            some (digits width number.toNat, allDigits width numbers ++ rest) :=
          split?_eq_some_iff.mpr ⟨by simp, length_digits _ _⟩
        have others : splitMany? width count (allDigits width numbers ++ rest) =
            some (numbers, rest) :=
          ih.mpr ⟨Nat.succ.inj counted, fun other member => fit other (.tail _ member), rfl⟩
        have same : decode width (digits width number.toNat) = number := by
          simpa using decode_digits_append bounded (fit number (.head _)) []
        simp only [splitMany?, first, others, same]

end Several

end Field

end Bitslice
