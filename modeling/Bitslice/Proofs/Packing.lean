import Bitslice.Ram
import Bitslice.Proofs.Bits
import Bitslice.Proofs.SingleBit

/-!
# Packing and unpacking, lane by lane

`Ram.laneCells` is the memory of single bits that one lane of a memory holds.
Packing stores the wires of row `i` into lane `i` and leaves every other lane
alone; unpacking lists the bits of lane `i` in row `i`.
-/

namespace Bitslice

theorem Lanes.count_pos (lanes : Lanes) : 0 < lanes.count := by
  cases lanes <;> decide

namespace Register

variable {lanes : Lanes} (register left right : Register lanes)

@[simp] theorem lane_zero (index : Nat) : (0 : Register lanes).lane index = false := by
  simp [lane]

@[simp] theorem lane_xor (index : Nat) :
    (left ^^^ right).lane index = (left.lane index ^^ right.lane index) :=
  BitVec.getLsbD_xor

@[simp] theorem lane_and (index : Nat) :
    (left &&& right).lane index = (left.lane index && right.lane index) :=
  BitVec.getLsbD_and

@[simp] theorem lane_or (index : Nat) :
    (left ||| right).lane index = (left.lane index || right.lane index) :=
  BitVec.getLsbD_or

@[simp] theorem lane_not (index : Nat) : (~~~register).lane index = !register.lane index := by
  have wrapped : index % lanes.count < lanes.count := Nat.mod_lt _ lanes.count_pos
  simp [lane, wrapped]

/-- Setting a lane replaces that lane and no other; lane numbers wrap around. -/
theorem lane_setLane (index other : Nat) (bit : Bool) :
    (register.setLane index bit).lane other =
      if other % lanes.count = index % lanes.count then bit else register.lane other := by
  have wrapped : index % lanes.count < lanes.count := Nat.mod_lt _ lanes.count_pos
  have mask : lane (BitVec.twoPow lanes.count (index % lanes.count)) other =
      decide (other % lanes.count = index % lanes.count) := by
    rw [lane, BitVec.getLsbD_twoPow]
    simp only [wrapped, decide_true, Bool.true_and, eq_comm]
  by_cases same : other % lanes.count = index % lanes.count
  · rw [if_pos same, setLane]
    cases bit <;> simp [mask, same]
  · rw [if_neg same, setLane]
    cases bit <;> simp [mask, same]

end Register

/-- Registers agree when all their lanes do. -/
theorem Register.ext_lane {lanes : Lanes} {left right : Register lanes}
    (same : ∀ lane < lanes.count, left.lane lane = right.lane lane) : left = right := by
  apply BitVec.eq_of_getLsbD_eq
  intro index inside
  have agree := same index inside
  rwa [lane, lane, Nat.mod_eq_of_lt inside] at agree

/-- Traces agree when all their lanes do. -/
theorem Trace.ext_lane {lanes : Lanes} {left right : List (Register lanes)}
    (same : ∀ lane < lanes.count, left.map (·.lane lane) = right.map (·.lane lane)) :
    left = right := by
  induction left generalizing right with
  | nil =>
    have none := same 0 lanes.count_pos
    exact (List.map_eq_nil_iff.mp none.symm).symm
  | cons register left ih =>
    cases right with
    | nil => cases same 0 lanes.count_pos
    | cons other right =>
      have front : register = other := by
        apply Register.ext_lane
        intro lane inside
        exact (List.cons.inj (same lane inside)).1
      have behind : left = right := by
        apply ih
        intro lane inside
        exact (List.cons.inj (same lane inside)).2
      rw [front, behind]

namespace Ram

variable {lanes : Lanes} (ram : Ram lanes)

/-- The bits of one lane, by address. -/
def laneCells (lane : Nat) : Cells :=
  fun address => (ram.cell address).lane lane

section Cells

@[simp] theorem size_cleared : ram.cleared.size = ram.size :=
  Array.size_replicate

@[simp] theorem size_write (address : UInt64) (register : Register lanes) :
    (ram.write address register).size = ram.size :=
  Array.size_setIfInBounds

@[simp] theorem laneCells_cleared (lane : Nat) : ram.cleared.laneCells lane = Cells.zero := by
  ext address
  have zero : ram.cleared.cell address = 0 := by
    simp only [cell, cleared, zeros, Array.getD_eq_getD_getElem?, Array.getElem?_replicate]
    split <;> rfl
  rw [laneCells, zero, Register.lane_zero]
  rfl

variable {ram} {address : UInt64}

theorem cell_modify (inside : address.toNat < ram.size) (change : Register lanes → Register lanes)
    (other : UInt64) :
    cell (ram.modify address.toNat change) other =
      if other = address then change (ram.cell other) else ram.cell other := by
  by_cases same : other = address
  · subst same
    rw [if_pos rfl, cell, cell, Array.getD_eq_getD_getElem?, Array.getD_eq_getD_getElem?,
      Array.getElem?_modify, if_pos rfl, Array.getElem?_eq_getElem inside]
    rfl
  · have apart : address.toNat ≠ other.toNat := fun equal => same (UInt64.toNat_inj.mp equal).symm
    simp [cell, Array.getElem?_modify, same, apart]

theorem cell_write (inside : address.toNat < ram.size) (register : Register lanes)
    (other : UInt64) :
    (ram.write address register).cell other =
      if other = address then register else ram.cell other := by
  by_cases same : other = address
  · subst same
    simp [cell, write, inside]
  · have apart : address.toNat ≠ other.toNat := fun equal => same (UInt64.toNat_inj.mp equal).symm
    simp [cell, write, same, apart]

/-- Writing a register writes one bit of each lane. -/
theorem laneCells_write (inside : address.toNat < ram.size) (register : Register lanes)
    (lane : Nat) :
    (ram.write address register).laneCells lane =
      (ram.laneCells lane).set address (register.lane lane) := by
  ext other
  rw [laneCells, cell_write inside]
  by_cases same : other = address
  · rw [if_pos same, same, Cells.set_same]
  · rw [if_neg same, Cells.set_other _ _ same]
    rfl

end Cells

section Pack

variable {ram} {table : List UInt64}

@[simp] theorem size_storeLane (lane : Nat) (pairs : List (UInt64 × Bool)) :
    (ram.storeLane lane pairs).size = ram.size := by
  induction pairs generalizing ram with
  | nil => rfl
  | cons pair pairs ih =>
    rw [storeLane, ih]
    exact Array.size_modify

@[simp] theorem size_storeRows (lane : Nat) (rows : List Bytes) :
    (ram.storeRows table lane rows).size = ram.size := by
  induction rows generalizing ram lane with
  | nil => rfl
  | cons row rows ih => rw [storeRows, ih, size_storeLane]

@[simp] theorem size_pack (inputs : Bytes) (size batch : Nat) :
    (ram.pack table inputs size batch).size = ram.size := by
  unfold pack
  split
  · rfl
  · exact size_storeRows 0 _

/-- Storing into a lane stores into its bits and leaves every other lane alone. -/
theorem laneCells_storeLane {lane other : Nat} (laneInside : lane < lanes.count)
    (otherInside : other < lanes.count) {pairs : List (UInt64 × Bool)}
    (inside : ∀ pair ∈ pairs, pair.1.toNat < ram.size) :
    (ram.storeLane lane pairs).laneCells other =
      if other = lane then (ram.laneCells other).store pairs else ram.laneCells other := by
  induction pairs generalizing ram with
  | nil => exact (ite_self _).symm
  | cons pair pairs ih =>
    obtain ⟨address, bit⟩ := pair
    have here : address.toNat < ram.size := inside (address, bit) (.head _)
    have changed : laneCells (ram.modify address.toNat fun register => register.setLane lane bit)
        other = if other = lane then (ram.laneCells other).set address bit
          else ram.laneCells other := by
      ext cell
      rw [laneCells, cell_modify here]
      by_cases sameCell : cell = address
      · rw [if_pos sameCell, Register.lane_setLane, Nat.mod_eq_of_lt laneInside,
          Nat.mod_eq_of_lt otherInside]
        by_cases sameLane : other = lane
        · rw [if_pos sameLane, if_pos sameLane, sameCell, Cells.set_same]
        · rw [if_neg sameLane, if_neg sameLane]
          rfl
      · rw [if_neg sameCell]
        by_cases sameLane : other = lane
        · rw [if_pos sameLane, Cells.set_other _ _ sameCell]
          rfl
        · rw [if_neg sameLane]
          rfl
    rw [storeLane, ih, changed]
    · by_cases sameLane : other = lane
      · simp only [if_pos sameLane]
        rfl
      · simp only [if_neg sameLane]
    · intro later member
      rw [Array.size_modify]
      exact inside later (.tail _ member)

/-- The lanes in front of the first row keep what they hold, and each lane from there on receives
its row. -/
theorem laneCells_storeRows {first lane : Nat} {rows : List Bytes}
    (inside : ∀ address ∈ table, address.toNat < ram.size)
    (fits : first + rows.length ≤ lanes.count) (laneInside : lane < lanes.count) :
    (ram.storeRows table first rows).laneCells lane =
      if first ≤ lane ∧ lane < first + rows.length then
        (ram.laneCells lane).store (table.zip (Bits.ofBytes (rows.getD (lane - first) [])))
      else ram.laneCells lane := by
  induction rows generalizing ram first with
  | nil =>
    have none : ¬(first ≤ lane ∧ lane < first + ([] : List Bytes).length) := by
      rw [List.length_nil]
      omega
    rw [if_neg none]
    rfl
  | cons row rows ih =>
    rw [List.length_cons] at fits
    have firstInside : first < lanes.count := by omega
    have pairsInside : ∀ pair ∈ table.zip (Bits.ofBytes row), pair.1.toNat < ram.size :=
      fun pair member => inside pair.1 (List.of_mem_zip member).1
    have stored := laneCells_storeLane firstInside laneInside pairsInside
    rw [storeRows, ih (by simpa using inside) (by omega), stored, List.length_cons]
    rcases Nat.lt_trichotomy lane first with before | same | behind
    · have apart : lane ≠ first := Nat.ne_of_lt before
      have outside : ¬(first + 1 ≤ lane ∧ lane < first + 1 + rows.length) := by omega
      have outsideToo : ¬(first ≤ lane ∧ lane < first + (rows.length + 1)) := by omega
      rw [if_neg outside, if_neg outsideToo, if_neg apart]
    · subst same
      have outside : ¬(lane + 1 ≤ lane ∧ lane < lane + 1 + rows.length) := by omega
      have here : lane ≤ lane ∧ lane < lane + (rows.length + 1) := by omega
      rw [if_neg outside, if_pos here, if_pos rfl, Nat.sub_self, List.getD_cons_zero]
    · have apart : lane ≠ first := Nat.ne_of_gt behind
      have place : lane - first = lane - (first + 1) + 1 := by omega
      rw [if_neg apart, place, List.getD_cons_succ]
      by_cases among : lane < first + 1 + rows.length
      · rw [if_pos ⟨behind, among⟩, if_pos (by omega)]
      · rw [if_neg fun both => among both.2, if_neg (by omega)]

/-- The wires of a row, paired with the cells that receive them. -/
theorem zip_ofBytes {row : Bytes} (covered : table.length ≤ 8 * row.length) :
    table.zip (Bits.ofBytes row) = table.zip ((List.range table.length).map (Bits.bitAt row)) := by
  rw [Bits.ofBytes_eq_map, List.zip_eq_zip_take_min, List.length_map, List.length_range,
    Nat.min_eq_left covered, List.take_length, ← List.map_take, List.take_range,
    Nat.min_eq_left covered]

/-- Packing stores row `i` into lane `i`, as many rows as the batch and the buffer have. -/
theorem laneCells_pack {inputs : Bytes} {size batch lane : Nat}
    (inside : ∀ address ∈ table, address.toNat < ram.size) (covered : table.length ≤ 8 * size)
    (fits : batch ≤ lanes.count) (laneInside : lane < lanes.count) :
    (ram.pack table inputs size batch).laneCells lane =
      if lane < min batch (inputs.length / size) then
        (ram.laneCells lane).store
          (table.zip ((List.range table.length).map (Bits.wire size inputs lane)))
      else ram.laneCells lane := by
  by_cases empty : size = 0
  · subst empty
    have none : ¬lane < min batch (inputs.length / 0) := by simp
    rw [if_neg none, pack, if_pos rfl]
  · have nonempty : 0 < size := Nat.pos_of_ne_zero empty
    have counted := Bits.length_rows nonempty batch inputs
    rw [pack, if_neg empty, laneCells_storeRows inside (by omega) laneInside, counted, Nat.zero_add,
      Nat.sub_zero]
    by_cases occupied : lane < min batch (inputs.length / size)
    · have whole : (lane + 1) * size ≤ inputs.length := by
        have bound : lane + 1 ≤ inputs.length / size := by omega
        exact (Nat.le_div_iff_mul_le nonempty).mp bound
      have row : (Bits.rows size batch inputs).getD lane [] =
          (inputs.drop (lane * size)).take size := by
        rw [List.getD_eq_getElem?_getD, Bits.getElem?_rows (by omega) whole]
        rfl
      have sized : ((inputs.drop (lane * size)).take size).length = size := by
        rw [List.length_take, List.length_drop]
        rw [Nat.succ_mul] at whole
        omega
      rw [if_pos ⟨Nat.zero_le _, occupied⟩, if_pos occupied, row, zip_ofBytes (by rwa [sized])]
      congr 2
      apply List.map_congr_left
      intro wire listed
      have below : wire < 8 * size := Nat.lt_of_lt_of_le (List.mem_range.mp listed) covered
      rw [Bits.bitAt_take below]
      rfl
    · rw [if_neg fun both => occupied both.2, if_neg occupied]

/-- Packing reads no further than the rows of the batch. -/
theorem pack_take (table : List UInt64) (inputs : Bytes) (size batch : Nat) :
    ram.pack table (inputs.take (batch * size)) size batch = ram.pack table inputs size batch := by
  rw [pack, pack, Bits.rows_take]

end Pack

section Unpack

variable {table : List UInt64} {outputs : Bytes} {size batch : Nat}

/-- The bit of a lane in the cell that a wire is read from, zero for a wire that is not listed. -/
theorem getD_laneBits (lane wire : Nat) : (ram.laneBits table lane).getD wire false =
    (table[wire]?.map (ram.laneCells lane)).getD false := by
  rw [laneBits, List.getD_eq_getElem?_getD, List.getElem?_map]
  rfl

theorem unpack_eq : ram.unpack table outputs size batch =
    (List.range (min batch (outputs.length / size))).flatMap
        (fun lane => Bits.row size (ram.laneBits table lane)) ++
      outputs.drop (min batch (outputs.length / size) * size) := by
  unfold unpack
  split
  · next empty =>
    subst empty
    simp
  · rfl

/-- Unpacking keeps the length of the buffer. -/
@[simp] theorem length_unpack : (ram.unpack table outputs size batch).length = outputs.length := by
  have rows := Bits.length_flatMap_pieces
    (fun lane => Bits.length_row size (ram.laneBits table lane))
    (min batch (outputs.length / size))
  have whole : min batch (outputs.length / size) * size ≤ outputs.length :=
    Nat.le_trans (Nat.mul_le_mul_right _ (Nat.min_le_right _ _)) (Nat.div_mul_le_self _ _)
  rw [unpack_eq, List.length_append, rows, List.length_drop]
  omega

/-- Row `i` lists the bits of lane `i`, filled up with zeros. -/
theorem wire_unpack {row wire : Nat} (occupied : row < min batch (outputs.length / size))
    (below : wire < 8 * size) : Bits.wire size (ram.unpack table outputs size batch) row wire =
      (table[wire]?.map (ram.laneCells row)).getD false := by
  rw [unpack_eq, Bits.wire_flatMap_pieces (fun _ => Bits.length_row _ _) _ occupied below,
    Bits.bitAt_row _ below, getD_laneBits]

/-- The rows that a batch unpacks. -/
def outputRows (table : List UInt64) (size batch : Nat) : List Bytes :=
  (List.range batch).map fun lane => Bits.row size (ram.laneBits table lane)

@[simp] theorem length_outputRows : (ram.outputRows table size batch).length = batch := by
  simp [outputRows]

theorem length_of_mem_outputRows (table : List UInt64) (size batch : Nat) :
    ∀ row ∈ ram.outputRows table size batch, row.length = size := by
  intro row member
  obtain ⟨lane, -, rfl⟩ := List.mem_map.mp member
  exact Bits.length_row _ _

/-- A buffer with room for the whole batch starts with its rows. -/
theorem unpack_of_room (room : batch * size ≤ outputs.length) :
    ram.unpack table outputs size batch =
      (ram.outputRows table size batch).flatten ++ outputs.drop (batch * size) := by
  by_cases empty : size = 0
  · subst empty
    have none : ∀ lane, Bits.row 0 (ram.laneBits table lane) = [] := fun _ => List.take_zero
    simp [unpack, outputRows, none]
  · have fits := (Nat.le_div_iff_mul_le (Nat.pos_of_ne_zero empty)).mpr room
    rw [unpack_eq, Nat.min_eq_left fits, List.flatMap_def, outputRows]

theorem rows_unpack (room : batch * size ≤ outputs.length) :
    Bits.rows size batch (ram.unpack table outputs size batch) =
      ram.outputRows table size batch := by
  have cut := Bits.rows_flatten (ram.length_of_mem_outputRows table size batch)
    (outputs.drop (batch * size))
  rw [length_outputRows] at cut
  rw [unpack_of_room ram room, cut]

/-- What the front of the buffer held before is gone. -/
theorem take_unpack (room : batch * size ≤ outputs.length) :
    (ram.unpack table outputs size batch).take (batch * size) =
      (ram.outputRows table size batch).flatten := by
  have sized : (ram.outputRows table size batch).flatten.length = batch * size := by
    rw [Bits.length_flatten_rows (ram.length_of_mem_outputRows table size batch), length_outputRows]
  rw [unpack_of_room ram room, List.take_left' sized]

/-- The bytes behind the rows stay. -/
theorem drop_unpack : (ram.unpack table outputs size batch).drop
      (min batch (outputs.length / size) * size) =
    outputs.drop (min batch (outputs.length / size) * size) := by
  rw [unpack_eq]
  exact List.drop_left' (Bits.length_flatMap_pieces (fun _ => Bits.length_row _ _) _)

end Unpack

end Ram

end Bitslice
