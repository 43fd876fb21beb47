import Bitslice.Proofs.Checking

/-!
# Field widths at their boundaries

A field of `width` bytes ends at `256 ^ width`. That boundary is met everywhere:
by the narrowest widths for a memory, by the check of a memory and by writing a
field, whose bytes and numbers determine each other. All three are also made in
words, with leading zeros, shifts and differences that stop at zero, and come to
the same.
-/

namespace Bitslice

namespace Words

/-- The difference of two words, or zero where there is none. -/
def difference (left right : UInt64) : UInt64 :=
  if left < right then 0 else left - right

/-- The bits that a word takes: all but its leading zeros. -/
def bits (word : UInt64) : Nat :=
  64 - word.toBitVec.clz.toNat

/-- The bytes that the addresses of a memory take: those of the last address, and at least one. -/
def addressWidth (memory : UInt64) : Nat :=
  max ((bits (difference memory 1) + 7) / 8) 1

theorem toNat_difference (left right : UInt64) :
    (difference left right).toNat = left.toNat - right.toNat := by
  unfold difference
  split
  · next less =>
    have ordered := UInt64.lt_iff_toNat_lt.mp less
    rw [UInt64.toNat_zero]
    omega
  · next reaches =>
    apply UInt64.toNat_sub_of_le
    exact UInt64.not_lt.mp reaches

/-- A word takes as many bits as its number. -/
theorem bits_le_iff {word : UInt64} {count : Nat} : bits word ≤ count ↔ word.toNat < 2 ^ count := by
  constructor
  · intro few
    calc word.toNat < 2 ^ bits word := BitVec.toNat_lt_two_pow_sub_clz
      _ ≤ 2 ^ count := Nat.pow_le_pow_right (by decide) few
  · intro small
    unfold bits
    by_cases zero : word.toBitVec = 0
    · have all := BitVec.clz_eq_iff_eq_zero.mpr zero
      rw [all]
      exact Nat.zero_le _
    · have large := BitVec.two_pow_sub_clz_le_toNat_of_ne_zero (by decide) zero
      have fewer : 64 - 1 - word.toBitVec.clz.toNat < count :=
        (Nat.pow_lt_pow_iff_right (by decide)).mp (Nat.lt_of_le_of_lt large small)
      omega

end Words

namespace Field

theorem capacity_eq_two_pow (width : Nat) : capacity width = 2 ^ (8 * width) := by
  rw [capacity_eq_pow, Nat.pow_mul]

theorem capacity_pos (width : Nat) : 0 < capacity width := by
  rw [capacity_eq_two_pow]
  exact Nat.two_pow_pos _

theorem largest_eq {width : Nat} (bounded : width ≤ 8) : largest width = Words.largest width := by
  have each : ∀ width < 9, largest width = Words.largest width := by decide
  exact each width (Nat.lt_succ_of_le bounded)

/-- The largest number of a field is the last one below its boundary. -/
theorem toNat_largest_add_one {width : Nat} (bounded : width ≤ 8) :
    (largest width).toNat + 1 = 256 ^ width := by
  have positive := capacity_pos width
  rw [largest_eq bounded, Words.toNat_largest bounded, ← capacity_eq_pow]
  omega

/-- The digits of a number are as many as a field needs that can hold it. -/
theorem widthOf_le_iff {width : Nat} (nonempty : 0 < width) (number : Nat) :
    widthOf number ≤ width ↔ number < capacity width := by
  have bytes : widthOf number ≤ width ↔ number.log2 < 8 * width := by
    unfold widthOf
    omega
  rw [bytes]
  by_cases zero : number = 0
  · subst zero
    have positive := capacity_pos width
    rw [Nat.log2_zero]
    omega
  · rw [capacity_eq_two_pow, Nat.log2_lt zero]

/-- Writes a number behind what a buffer holds. A number that does not fit leaves it as it is. -/
def write (buffer : Bytes) (width : Nat) (number : UInt64) : Except Malformed Unit × Bytes :=
  match encode width number with
  | .error cause => (.error cause, buffer)
  | .ok bytes => (.ok (), buffer ++ bytes)

/-- Writing in words: the number is compared with the largest of its field, and its eight bytes are
cut to the width. -/
def writeInWords (buffer : Bytes) (width : Nat) (number : UInt64) :
    Except Malformed Unit × Bytes :=
  if Words.largest width < number then (.error (.unrepresentable number width), buffer)
  else (.ok (), buffer ++ (digits 8 number.toNat).take width)

/-- Reading in words: the bytes of the field are filled up to eight. -/
def readInWords (width : Nat) (bytes : Bytes) : UInt64 :=
  UInt64.ofNat (value (bytes.take width ++ List.replicate (8 - width) 0))

/-- A number has been written into a field, or refused whole. -/
structure Writes (buffer : Bytes) (width : Nat) (number : UInt64)
    (result : Except Malformed Unit) (after : Bytes) : Prop where
  accepted : result = .ok () ↔ number.toNat < 256 ^ width
  appended : result = .ok () → ∃ bytes, after = buffer ++ bytes ∧ bytes.length = width ∧
    ∀ rest, decode width (bytes ++ rest) = number
  refused : ∀ cause, result = .error cause →
    cause = .unrepresentable number width ∧ after = buffer

section Write

variable {buffer : Bytes} {width : Nat} {number : UInt64}

theorem write_of_lt (fits : number.toNat < capacity width) :
    write buffer width number = (.ok (), buffer ++ digits width number.toNat) := by
  rw [write, encode, if_pos fits]

theorem write_of_not_lt (large : ¬number.toNat < capacity width) :
    write buffer width number = (.error (.unrepresentable number width), buffer) := by
  rw [write, encode, if_neg large]

theorem write_eq_ok_iff :
    (write buffer width number).1 = .ok () ↔ number.toNat < capacity width := by
  by_cases fits : number.toNat < capacity width
  · simp [write_of_lt fits, fits]
  · simp [write_of_not_lt fits, fits]

theorem writes_write (bounded : width ≤ 8) :
    Writes buffer width number (write buffer width number).1 (write buffer width number).2 where
  accepted := by
    rw [write_eq_ok_iff, capacity_eq_pow]
  appended := by
    intro succeeded
    have fits := write_eq_ok_iff.mp succeeded
    rw [write_of_lt fits]
    exact ⟨_, rfl, length_digits _ _, decode_digits_append bounded fits⟩
  refused := by
    intro cause failed
    have large : ¬number.toNat < capacity width := by
      intro fits
      rw [write_of_lt fits] at failed
      cases failed
    rw [write_of_not_lt large] at failed ⊢
    exact ⟨(Except.error.inj failed).symm, rfl⟩

theorem writeInWords_eq (bounded : width ≤ 8) :
    writeInWords buffer width number = write buffer width number := by
  have exceeds : Words.largest width < number ↔ ¬number.toNat < capacity width := by
    have positive := capacity_pos width
    rw [UInt64.lt_iff_toNat_lt, Words.toNat_largest bounded]
    omega
  unfold writeInWords
  by_cases fits : number.toNat < capacity width
  · rw [if_neg (mt exceeds.mp (not_not_intro fits)), write_of_lt fits, take_digits bounded]
  · rw [if_pos (exceeds.mpr fits), write_of_not_lt fits]

theorem value_zeros (count : Nat) : value (List.replicate count 0) = 0 := by
  induction count with
  | zero => rfl
  | succ count ih =>
    rw [List.replicate_succ, value, ih]
    rfl

/-- Highest digits that are zero do not change a number. -/
theorem value_append_zeros (bytes : Bytes) (count : Nat) :
    value (bytes ++ List.replicate count 0) = value bytes := by
  induction bytes with
  | nil => exact value_zeros count
  | cons byte bytes ih => rw [List.cons_append, value, value, ih]

theorem readInWords_eq (width : Nat) (bytes : Bytes) :
    readInWords width bytes = decode width bytes := by
  rw [readInWords, decode, value_append_zeros]

/-- What was read from a field is written with the same bytes. -/
theorem write_decode (bounded : width ≤ 8) {bytes : Bytes} (sized : bytes.length = width)
    (rest : Bytes) :
    write buffer width (decode width (bytes ++ rest)) = (.ok (), buffer ++ bytes) := by
  have enough : width ≤ (bytes ++ rest).length := by
    rw [List.length_append, sized]
    exact Nat.le_add_right _ _
  rw [write_of_lt (toNat_decode_lt_capacity bounded _), digits_decode bounded enough,
    List.take_left' sized]

end Write

/-- The cells of a memory have addresses of a width exactly if there are at most so many of them. -/
theorem addresses_fit_iff {width : Nat} {memory : UInt64} :
    (∀ address < memory, address.toNat < capacity width) ↔ memory.toNat ≤ capacity width := by
  constructor
  · intro fit
    by_cases empty : memory.toNat = 0
    · rw [empty]
      exact Nat.zero_le _
    · have last : (Words.difference memory 1).toNat = memory.toNat - 1 :=
        Words.toNat_difference memory 1
      have inside : Words.difference memory 1 < memory := by
        rw [UInt64.lt_iff_toNat_lt, last]
        omega
      have bounded := fit _ inside
      omega
  · intro counted address inside
    exact Nat.lt_of_lt_of_le (UInt64.lt_iff_toNat_lt.mp inside) counted

end Field

namespace Widths

variable {memory : UInt64}

/-- A memory needs addresses no wider than a field that counts its cells. -/
theorem minimal_le_iff {width : Nat} (nonempty : 0 < width) :
    (minimal memory).address ≤ width ↔ memory.toNat ≤ Field.capacity width := by
  have positive := Field.capacity_pos width
  have digits : (minimal memory).address ≤ width ↔ memory.toNat - 1 < Field.capacity width :=
    Field.widthOf_le_iff nonempty _
  omega

theorem addressWidth_le_iff {width : Nat} (nonempty : 0 < width) :
    Words.addressWidth memory ≤ width ↔ memory.toNat ≤ Field.capacity width := by
  have positive := Field.capacity_pos width
  have last : Words.bits (Words.difference memory 1) ≤ 8 * width ↔
      memory.toNat - 1 < Field.capacity width := by
    rw [Words.bits_le_iff, Words.toNat_difference, Field.capacity_eq_two_pow]
    rfl
  unfold Words.addressWidth
  omega

/-- The narrowest widths are found in words. -/
theorem minimal_address_eq (memory : UInt64) :
    (minimal memory).address = Words.addressWidth memory := by
  have some : 0 < Words.addressWidth memory := Nat.le_max_right _ _
  apply Nat.le_antisymm
  · apply (minimal_le_iff some).mpr
    exact (addressWidth_le_iff some).mp (Nat.le_refl _)
  · have someToo := (minimal memory).address_bounded.1
    apply (addressWidth_le_iff someToo).mpr
    exact (minimal_le_iff someToo).mp (Nat.le_refl _)

/-- Field widths are exact at every boundary. The narrowest widths for a memory pass its check, and
no widths with narrower addresses do; the check of a memory passes exactly if each of its addresses
can be written. A field of at most eight bytes takes exactly the numbers below `256 ^ width`, of
which its largest number is the last, each in so many bytes, from which it is read back whatever
follows them; any other number is refused, and the buffer stays as it was. Bytes that were read as a
number are written for it again. Made in words, every one of these operations comes to the same. -/
theorem field_widths_are_exact :
    (∀ memory : UInt64,
        (minimal memory).address = Words.addressWidth memory ∧
          (minimal memory).checkAddressing memory = .ok () ∧
          ∀ widths : Widths, widths.address < (minimal memory).address →
            widths.checkAddressing memory = .error (.memoryTooLarge memory widths.address)) ∧
      (∀ (widths : Widths) (memory : UInt64),
        widths.checkInWords memory = widths.checkAddressing memory ∧
          (widths.checkAddressing memory = .ok () ↔ ∀ address < memory, ∀ buffer : Bytes,
            (Field.write buffer widths.address address).1 = .ok ())) ∧
      ∀ width : Nat, width ≤ 8 →
        Field.largest width = Words.largest width ∧
          (Field.largest width).toNat + 1 = 256 ^ width ∧
          (∀ (buffer : Bytes) (number : UInt64),
            let written := Field.write buffer width number
            Field.writeInWords buffer width number = written ∧
              Field.Writes buffer width number written.1 written.2) ∧
          ∀ buffer bytes rest : Bytes, bytes.length = width →
            let number := Field.decode width (bytes ++ rest)
            Field.readInWords width (bytes ++ rest) = number ∧
              Field.write buffer width number = (.ok (), buffer ++ bytes) := by
  refine ⟨?_, ?_, ?_⟩
  · intro memory
    refine ⟨minimal_address_eq memory, ?_, ?_⟩
    · apply checkAddressing_eq_ok_iff.mpr
      exact (minimal_le_iff (minimal memory).address_bounded.1).mp (Nat.le_refl _)
    · intro widths narrower
      have large : ¬memory.toNat ≤ Field.capacity widths.address := fun counted =>
        Nat.not_le_of_lt narrower ((minimal_le_iff widths.address_bounded.1).mpr counted)
      rw [checkAddressing, if_neg large]
  · intro widths memory
    refine ⟨widths.checkInWords_eq memory, ?_⟩
    rw [checkAddressing_eq_ok_iff, ← Field.addresses_fit_iff]
    simp only [Field.write_eq_ok_iff, forall_const]
  · intro width bounded
    refine ⟨Field.largest_eq bounded, Field.toNat_largest_add_one bounded, ?_, ?_⟩
    · intro buffer number written
      exact ⟨Field.writeInWords_eq bounded, Field.writes_write bounded⟩
    · intro buffer bytes rest sized number
      exact ⟨Field.readInWords_eq width _, Field.write_decode bounded sized rest⟩

/-- Two bytes reach exactly to `2 ^ 16`: one cell more takes a third byte, and the number itself is
refused. -/
theorem two_bytes_reach :
    Widths.fixed.address < (minimal 65537).address ∧
      Widths.fixed.checkAddressing 65537 = .error (.memoryTooLarge 65537 2) ∧
      Widths.fixed.checkAddressing 65536 = .ok () ∧
      Field.Writes [7] 2 65536 (.error (.unrepresentable 65536 2)) [7] ∧
      Field.write [7] 2 (Field.decode 2 ([255, 255] ++ [1])) = (.ok (), [7, 255, 255]) := by
  obtain ⟨narrowest, -, fields⟩ := field_widths_are_exact
  have narrower : Widths.fixed.address < (minimal 65537).address := by decide
  obtain ⟨-, -, writes, reads⟩ := fields 2 (by decide)
  exact ⟨narrower, (narrowest 65537).2.2 Widths.fixed narrower, rfl, (writes [7] 65536).2,
    (reads [7] [255, 255] [1] rfl).2⟩

end Widths

end Bitslice
