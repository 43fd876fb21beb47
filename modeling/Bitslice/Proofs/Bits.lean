import Bitslice.Bits
import Bitslice.Proofs.Fields

/-!
# Single bits of byte buffers

`Bits.wire` reads one wire of one row of a buffer. Rows that are cut out of a
buffer and rows that are made from bits are described wire by wire.
-/

namespace Bitslice.Bits

/-- A bit of a byte sequence: bit `7 - wire % 8` of byte `wire / 8`, zero behind the end. -/
def bitAt (bytes : Bytes) (wire : Nat) : Bool :=
  (bytes.getD (wire / 8) 0).toNat.testBit (7 - wire % 8)

/-- A wire of a row of a buffer whose rows take `size` bytes each. -/
def wire (size : Nat) (buffer : Bytes) (row wire : Nat) : Bool :=
  bitAt (buffer.drop (row * size)) wire

theorem bitAt_of_length_le {bytes : Bytes} {wire : Nat} (behind : 8 * bytes.length ≤ wire) :
    bitAt bytes wire = false := by
  have outside : bytes.length ≤ wire / 8 := by omega
  simp [bitAt, outside]

theorem bitAt_append_left {bytes later : Bytes} {wire : Nat} (inside : wire < 8 * bytes.length) :
    bitAt (bytes ++ later) wire = bitAt bytes wire := by
  have index : wire / 8 < bytes.length := by omega
  simp [bitAt, List.getElem?_append_left index]

theorem bitAt_append_right {bytes later : Bytes} {wire : Nat} (behind : 8 * bytes.length ≤ wire) :
    bitAt (bytes ++ later) wire = bitAt later (wire - 8 * bytes.length) := by
  have index : bytes.length ≤ wire / 8 := by omega
  have sameByte : (wire - 8 * bytes.length) / 8 = wire / 8 - bytes.length := by omega
  have sameBit : (wire - 8 * bytes.length) % 8 = wire % 8 := by omega
  simp only [bitAt, List.getD_eq_getElem?_getD, List.getElem?_append_right index, sameByte, sameBit]

theorem bitAt_take {bytes : Bytes} {count wire : Nat} (inside : wire < 8 * count) :
    bitAt (bytes.take count) wire = bitAt bytes wire := by
  have index : wire / 8 < count := by omega
  simp [bitAt, List.getElem?_take_of_lt index]

section Lists

@[simp] theorem length_ofByte (byte : UInt8) : (ofByte byte).length = 8 := by
  simp [ofByte]

@[simp] theorem length_ofBytes (bytes : Bytes) : (ofBytes bytes).length = 8 * bytes.length := by
  induction bytes with
  | nil => rfl
  | cons byte bytes ih =>
    rw [ofBytes, List.flatMap_cons, ← ofBytes, List.length_append, ih, length_ofByte,
      List.length_cons]
    omega

/-- The bits of a byte sequence, listed from the front. -/
theorem ofBytes_eq_map (bytes : Bytes) :
    ofBytes bytes = (List.range (8 * bytes.length)).map (bitAt bytes) := by
  induction bytes with
  | nil => rfl
  | cons byte bytes ih =>
    have eight : 8 * (byte :: bytes).length = 8 + 8 * bytes.length := by
      rw [List.length_cons]
      omega
    have front : ofByte byte = (List.range 8).map (bitAt (byte :: bytes)) := rfl
    have behind : ∀ wire, bitAt bytes wire = bitAt (byte :: bytes) (8 + wire) := by
      intro wire
      have later : 8 * [byte].length ≤ 8 + wire := Nat.le_add_right _ _
      rw [← List.singleton_append, bitAt_append_right later]
      exact congrArg (bitAt bytes) (Nat.add_sub_cancel_left 8 wire).symm
    rw [ofBytes, List.flatMap_cons, ← ofBytes, ih, eight, List.range_add, List.map_append,
      List.map_map, front]
    refine congrArg _ (List.map_congr_left ?_)
    intro wire _
    exact behind wire

/-- Doubling and adding collects bits, the first one as the most significant. -/
theorem testBit_collect (bit : Nat → Bool) {count index : Nat} (inside : index < count) :
    ((List.range count).foldl (fun number index => 2 * number + (bit index).toNat) 0).testBit
      (count - 1 - index) = bit index := by
  induction count with
  | zero => cases inside
  | succ count ih =>
    rw [List.range_succ, List.foldl_append, List.foldl_cons, List.foldl_nil]
    generalize (List.range count).foldl _ 0 = number at ih ⊢
    by_cases last : index = count
    · subst last
      rw [Nat.add_sub_cancel, Nat.sub_self]
      cases bit index <;> simp
    · have before : index < count := by omega
      have place : count + 1 - 1 - index = count - 1 - index + 1 := by omega
      rw [place, Nat.testBit_succ, ← ih before]
      congr 1
      cases bit count <;> simp only [Bool.toNat_false, Bool.toNat_true] <;> omega

/-- An octet holds its bits, the most significant first. -/
theorem testBit_octet (bits : List Bool) {index : Nat} (inside : index < 8) :
    (octet bits).toNat.testBit (7 - index) = bits.getD index false := by
  have low : 7 - index < 8 := by omega
  rw [octet, UInt8.toNat_ofNat', Nat.testBit_mod_two_pow]
  simp only [low, decide_true, Bool.true_and]
  exact testBit_collect (fun index => bits.getD index false) inside

@[simp] theorem toBytes_nil : toBytes [] = [] := by
  rw [toBytes]

/-- Each byte holds the next eight bits; behind the last bit there are only zeros. -/
theorem getD_toBytes (bits : List Bool) (number : Nat) :
    (toBytes bits).getD number 0 = octet ((bits.drop (8 * number)).take 8) := by
  induction number generalizing bits with
  | zero =>
    cases bits with
    | nil => rw [toBytes_nil]; rfl
    | cons bit rest => rw [toBytes]; rfl
  | succ number ih =>
    cases bits with
    | nil => simp [toBytes_nil]; rfl
    | cons bit rest =>
      have skip : (bit :: rest).drop (8 * (number + 1)) = (rest.drop 7).drop (8 * number) := by
        have split : 8 * (number + 1) = 7 + 8 * number + 1 := by omega
        rw [split, List.drop_succ_cons, List.drop_drop]
      rw [toBytes, List.getD_cons_succ, ih, skip]

@[simp] theorem length_row (count : Nat) (bits : List Bool) : (row count bits).length = count := by
  simp [row]

/-- Zeros behind a byte sequence change no bit. -/
theorem bitAt_append_zeros (bytes : Bytes) (count wire : Nat) :
    bitAt (bytes ++ List.replicate count 0) wire = bitAt bytes wire := by
  by_cases inside : wire < 8 * bytes.length
  · exact bitAt_append_left inside
  · rw [bitAt_append_right (Nat.le_of_not_lt inside), bitAt_of_length_le (Nat.le_of_not_lt inside)]
    simp only [bitAt, List.getD_eq_getElem?_getD, List.getElem?_replicate]
    split <;> exact Nat.zero_testBit _

theorem bitAt_toBytes (bits : List Bool) (wire : Nat) :
    bitAt (toBytes bits) wire = bits.getD wire false := by
  have low : wire % 8 < 8 := Nat.mod_lt _ (by decide)
  rw [bitAt, getD_toBytes, testBit_octet _ low, List.getD_eq_getElem?_getD,
    List.getElem?_take_of_lt low, List.getElem?_drop, Nat.div_add_mod,
    List.getD_eq_getElem?_getD]

theorem toBytes_of_ne_nil {bits : List Bool} (nonempty : bits ≠ []) :
    toBytes bits = octet (bits.take 8) :: toBytes (bits.drop 8) := by
  obtain ⟨bit, rest, rfl⟩ := List.exists_cons_of_ne_nil nonempty
  rw [toBytes, List.drop_succ_cons]

@[simp] theorem length_toBytes (bits : List Bool) :
    (toBytes bits).length = (bits.length + 7) / 8 := by
  fun_induction toBytes bits with
  | case1 => rfl
  | case2 bit rest ih =>
    rw [List.length_cons, ih, List.length_drop, List.length_cons]
    omega

/-- Whole bytes in front stay what they are. -/
theorem toBytes_append {bits : List Bool} (whole : 8 ∣ bits.length) (others : List Bool) :
    toBytes (bits ++ others) = toBytes bits ++ toBytes others := by
  induction sizes : bits.length using Nat.strongRecOn generalizing bits with
  | ind size ih =>
    subst sizes
    by_cases empty : bits = []
    · rw [empty, toBytes_nil]
      rfl
    · have eight : 8 ≤ bits.length := Nat.le_of_dvd (List.length_pos_iff.mpr empty) whole
      have fewer : (bits.drop 8).length < bits.length := by
        rw [List.length_drop]
        omega
      have wholeToo : 8 ∣ (bits.drop 8).length := by
        rw [List.length_drop]
        exact Nat.dvd_sub whole (Nat.dvd_refl 8)
      rw [toBytes_of_ne_nil empty, toBytes_of_ne_nil (List.append_ne_nil_of_left_ne_nil empty _),
        List.take_append_of_le_length eight, List.drop_append_of_le_length eight,
        ih _ fewer wholeToo rfl, List.cons_append]

/-- Up to eight bits are one byte. -/
theorem toBytes_of_length_le {bits : List Bool} (nonempty : bits ≠ []) (few : bits.length ≤ 8) :
    toBytes bits = [octet bits] := by
  rw [toBytes_of_ne_nil nonempty, List.take_of_length_le few, List.drop_of_length_le few,
    toBytes_nil]

/-- The bytes hold exactly these bits, most significant bit first; bits that fill up the last byte
are zero. -/
structure Packs (bytes : Bytes) (bits : List Bool) : Prop where
  sized : bytes.length = (bits.length + 7) / 8
  bit : ∀ number, bitAt bytes number = bits.getD number false

theorem packs_toBytes (bits : List Bool) : Packs (toBytes bits) bits :=
  ⟨length_toBytes bits, bitAt_toBytes bits⟩

/-- A row that its bits fill has no further zeros. -/
theorem row_eq_toBytes {count : Nat} {bits : List Bool} (filled : (bits.length + 7) / 8 = count) :
    row count bits = toBytes bits := by
  rw [row, List.take_left' (by rw [length_toBytes, filled])]

/-- A row holds its bits, and zeros behind them. -/
theorem bitAt_row {count : Nat} (bits : List Bool) {wire : Nat} (inside : wire < 8 * count) :
    bitAt (row count bits) wire = bits.getD wire false := by
  rw [row, bitAt_take inside, bitAt_append_zeros, bitAt_toBytes]

end Lists

section Rows

variable {size : Nat}

theorem rows_of_le {count : Nat} {buffer : Bytes} (enough : size ≤ buffer.length) :
    rows size (count + 1) buffer = buffer.take size :: rows size count (buffer.drop size) := by
  have split : Field.split? size buffer = some (buffer.take size, buffer.drop size) :=
    Field.split?_eq_some_iff.mpr
      ⟨(List.take_append_drop _ _).symm, List.length_take_of_le enough⟩
  rw [rows, split]

theorem rows_of_lt {count : Nat} {buffer : Bytes} (short : buffer.length < size) :
    rows size count buffer = [] := by
  cases count with
  | zero => rfl
  | succ count =>
    rw [rows, Field.split?_eq_none_iff.mpr short]

/-- There are as many rows as asked for, or as many as the buffer holds. -/
theorem length_rows (nonempty : 0 < size) (count : Nat) (buffer : Bytes) :
    (rows size count buffer).length = min count (buffer.length / size) := by
  induction count generalizing buffer with
  | zero => simp [rows]
  | succ count ih =>
    by_cases enough : size ≤ buffer.length
    · rw [rows_of_le enough, List.length_cons, ih, List.length_drop,
        Nat.div_eq_sub_div nonempty enough, Nat.add_min_add_right]
    · have short : buffer.length < size := Nat.lt_of_not_le enough
      rw [rows_of_lt short, Nat.div_eq_of_lt short, Nat.min_zero]
      rfl

/-- The rows of a buffer are its consecutive pieces. -/
theorem getElem?_rows {count : Nat} {buffer : Bytes} {index : Nat} (asked : index < count)
    (enough : (index + 1) * size ≤ buffer.length) :
    (rows size count buffer)[index]? = some ((buffer.drop (index * size)).take size) := by
  induction index generalizing count buffer with
  | zero =>
    obtain ⟨count, rfl⟩ := Nat.exists_eq_add_one.mpr asked
    rw [rows_of_le (by omega), List.getElem?_cons_zero, Nat.zero_mul, List.drop_zero]
  | succ index ih =>
    obtain ⟨count, rfl⟩ := Nat.exists_eq_add_one.mpr (Nat.zero_lt_of_lt asked)
    rw [Nat.succ_mul] at enough
    have later : (index + 1) * size ≤ (buffer.drop size).length := by
      rw [List.length_drop]
      omega
    rw [rows_of_le (by omega), List.getElem?_cons_succ, ih (Nat.lt_of_succ_lt_succ asked) later,
      List.drop_drop, Nat.succ_mul, Nat.add_comm size]

theorem length_of_mem_rows {count : Nat} {buffer row : Bytes}
    (member : row ∈ rows size count buffer) : row.length = size := by
  induction count generalizing buffer with
  | zero => cases member
  | succ count ih =>
    by_cases enough : size ≤ buffer.length
    · rw [rows_of_le enough] at member
      rcases List.mem_cons.mp member with first | later
      · rw [first]
        exact List.length_take_of_le enough
      · exact ih later
    · rw [rows_of_lt (Nat.lt_of_not_le enough)] at member
      cases member

/-- Only the rows that are asked for matter. -/
theorem rows_take (size count : Nat) (buffer : Bytes) :
    rows size count (buffer.take (count * size)) = rows size count buffer := by
  induction count generalizing buffer with
  | zero => rfl
  | succ count ih =>
    by_cases enough : size ≤ buffer.length
    · have within : size ≤ (count + 1) * size := Nat.le_mul_of_pos_left size (Nat.succ_pos count)
      have enoughToo : size ≤ (buffer.take ((count + 1) * size)).length := by
        rw [List.length_take]
        omega
      have left : (count + 1) * size - size = count * size := by
        rw [Nat.succ_mul, Nat.add_sub_cancel]
      rw [rows_of_le enough, rows_of_le enoughToo, List.take_take, Nat.min_eq_left within,
        List.drop_take, left, ih]
    · have short : (buffer.take ((count + 1) * size)).length < size := by
        rw [List.length_take]
        omega
      rw [rows_of_lt (Nat.lt_of_not_le enough), rows_of_lt short]

theorem length_flatten_rows {pieces : List Bytes} (sized : ∀ piece ∈ pieces, piece.length = size) :
    pieces.flatten.length = pieces.length * size := by
  rw [List.length_flatten, List.map_eq_replicate_iff.mpr sized, List.sum_replicate_nat]

/-- A buffer that starts with rows is cut into these rows. -/
theorem rows_flatten {pieces : List Bytes} (sized : ∀ piece ∈ pieces, piece.length = size)
    (rest : Bytes) : rows size pieces.length (pieces.flatten ++ rest) = pieces := by
  induction pieces with
  | nil => rfl
  | cons piece pieces ih =>
    have here : piece.length = size := sized piece (.head _)
    have later := ih fun other member => sized other (.tail _ member)
    rw [List.flatten_cons, List.append_assoc, List.length_cons, rows_of_le (by simp [here]),
      List.take_left' here, List.drop_left' here, later]

/-- A wire of a row of a buffer that starts with rows. -/
theorem wire_flatten {pieces : List Bytes} (sized : ∀ piece ∈ pieces, piece.length = size)
    (rest : Bytes) {row number : Nat} (inside : row < pieces.length) (below : number < 8 * size) :
    wire size (pieces.flatten ++ rest) row number = bitAt pieces[row] number := by
  have enough : (row + 1) * size ≤ (pieces.flatten ++ rest).length := by
    rw [List.length_append, length_flatten_rows sized]
    exact Nat.le_trans (Nat.mul_le_mul_right size inside) (Nat.le_add_right _ _)
  have cut := getElem?_rows inside enough
  rw [rows_flatten sized, List.getElem?_eq_getElem inside] at cut
  rw [Option.some.inj cut, bitAt_take below, wire]

variable {piece : Nat → Bytes}

theorem length_flatMap_pieces (sized : ∀ index, (piece index).length = size) (count : Nat) :
    ((List.range count).flatMap piece).length = count * size := by
  induction count with
  | zero => rw [List.range_zero, List.flatMap_nil, List.length_nil, Nat.zero_mul]
  | succ count ih =>
    rw [List.range_succ, List.flatMap_append, List.flatMap_singleton, List.length_append, ih, sized,
      Nat.succ_mul]

/-- A wire of a row of a buffer that is put together from rows. -/
theorem wire_flatMap_pieces (sized : ∀ index, (piece index).length = size) {count row number : Nat}
    (rest : Bytes) (inside : row < count) (below : number < 8 * size) :
    wire size ((List.range count).flatMap piece ++ rest) row number = bitAt (piece row) number := by
  obtain ⟨others, rfl⟩ : ∃ others, count = row + (1 + others) := ⟨count - row - 1, by omega⟩
  have front := length_flatMap_pieces sized row
  rw [wire, List.range_add, List.flatMap_append, List.append_assoc, List.drop_left' front,
    Nat.add_comm 1, List.range_succ_eq_map, List.map_cons, List.flatMap_cons, List.append_assoc,
    Nat.add_zero, bitAt_append_left]
  rw [sized]
  exact below

end Rows

end Bitslice.Bits
