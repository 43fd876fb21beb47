import Bitslice.Proofs.Bounds

/-!
# Packing and unpacking transpose

Rows hold the bits of one instance, registers hold one bit of each instance.
Packing moves the wires of row `i` into lane `i` of the cells that the table
names, where the last wire for a cell wins, and unpacking moves them back. What
belongs to no wire of the batch stays, lanes and cells as well as bytes.

Unpacking is described as it is done in a buffer, too: a row is cleared, and
then each wire is marked in its byte (`Ram.unpackInPlace`).
-/

namespace Bitslice

namespace Bits

/-- Adds one bit to the bits of a byte sequence: its byte is joined with the bit, shifted into
place. -/
def mark (bytes : Bytes) (wire : Nat) (bit : Bool) : Bytes :=
  bytes.modify (wire / 8) fun byte => byte ||| bit.toUInt8 <<< UInt8.ofNat (7 - wire % 8)

/-- Marks consecutive wires from the given one on. -/
def markAll (bytes : Bytes) (wire : Nat) : List Bool → Bytes
  | [] => bytes
  | bit :: later => markAll (mark bytes wire bit) (wire + 1) later

theorem testBit_shifted (bit : Bool) {place index : Nat} (placeBounded : place < 8)
    (indexBounded : index < 8) :
    (bit.toUInt8 <<< UInt8.ofNat place).toNat.testBit index = (decide (index = place) && bit) := by
  have shift : (UInt8.ofNat place).toNat % 8 = place := by
    rw [UInt8.toNat_ofNat']
    omega
  rw [UInt8.toNat_shiftLeft, shift, Nat.testBit_mod_two_pow, Nat.testBit_shiftLeft,
    decide_eq_true indexBounded, Bool.true_and]
  cases bit with
  | false => simp [Bool.toUInt8]
  | true =>
    have one : true.toUInt8.toNat = 1 := rfl
    rw [one, Bool.and_true, Bool.eq_iff_iff]
    simp only [Bool.and_eq_true, decide_eq_true_eq, Nat.testBit_one_eq_true_iff_self_eq_zero]
    omega

@[simp] theorem length_mark (bytes : Bytes) (wire : Nat) (bit : Bool) :
    (mark bytes wire bit).length = bytes.length :=
  List.length_modify ..

/-- Marking adds one bit and keeps all others. -/
theorem bitAt_mark {bytes : Bytes} {wire : Nat} (inside : wire < 8 * bytes.length) (bit : Bool)
    (other : Nat) :
    bitAt (mark bytes wire bit) other = (bitAt bytes other || (decide (other = wire) && bit)) := by
  have stored : wire / 8 < bytes.length := by omega
  by_cases sameByte : wire / 8 = other / 8
  · have samePlace : 7 - other % 8 = 7 - wire % 8 ↔ other = wire := by omega
    have here : (mark bytes wire bit).getD (other / 8) 0 =
        bytes.getD (other / 8) 0 ||| bit.toUInt8 <<< UInt8.ofNat (7 - wire % 8) := by
      rw [← sameByte]
      simp [mark, List.getD_eq_getElem?_getD, stored]
    rw [bitAt, here, UInt8.toNat_or, Nat.testBit_or, testBit_shifted bit (by omega) (by omega)]
    simp only [samePlace]
    rfl
  · have apart : other ≠ wire := fun same => sameByte (congrArg (· / 8) same.symm)
    have kept : (mark bytes wire bit).getD (other / 8) 0 = bytes.getD (other / 8) 0 := by
      simp [mark, List.getD_eq_getElem?_getD, sameByte]
    rw [bitAt, kept, decide_eq_false apart, Bool.false_and, Bool.or_false]
    rfl

@[simp] theorem length_markAll (bytes : Bytes) (wire : Nat) (bits : List Bool) :
    (markAll bytes wire bits).length = bytes.length := by
  induction bits generalizing bytes wire with
  | nil => rfl
  | cons bit bits ih => rw [markAll, ih, length_mark]

/-- Marking adds each bit to its wire. -/
theorem bitAt_markAll {bytes : Bytes} {first : Nat} {bits : List Bool}
    (inside : first + bits.length ≤ 8 * bytes.length) (other : Nat) :
    bitAt (markAll bytes first bits) other =
      (bitAt bytes other || (decide (first ≤ other) && bits.getD (other - first) false)) := by
  induction bits generalizing bytes first with
  | nil => simp [markAll]
  | cons bit bits ih =>
    rw [List.length_cons] at inside
    have here : first < 8 * bytes.length := by omega
    have later : first + 1 + bits.length ≤ 8 * (mark bytes first bit).length := by
      rw [length_mark]
      omega
    rw [markAll, ih later, bitAt_mark here, Bool.or_assoc]
    congr 1
    -- The wire that was marked first is none of the later ones.
    rcases Nat.lt_trichotomy other first with before | same | behind
    · have apart : ¬first ≤ other := by omega
      have apartToo : ¬first + 1 ≤ other := by omega
      simp [apart, apartToo, Nat.ne_of_lt before]
    · subst same
      have passed : ¬other + 1 ≤ other := Nat.not_succ_le_self other
      simp [passed]
    · have place : other - first = other - (first + 1) + 1 := by omega
      have reached : first + 1 ≤ other := behind
      have reachedToo : first ≤ other := by omega
      rw [place, List.getD_cons_succ]
      simp [Nat.ne_of_gt behind, reached, reachedToo]

/-- Byte sequences of one length with the same bits are the same. -/
theorem ext {left right : Bytes} (sized : left.length = right.length)
    (same : ∀ wire < 8 * left.length, bitAt left wire = bitAt right wire) : left = right := by
  apply List.ext_getElem sized
  intro index leftInside rightInside
  apply UInt8.toNat_inj.mp
  apply Nat.eq_of_testBit_eq
  intro place
  by_cases low : place < 8
  · have byte : (8 * index + (7 - place)) / 8 = index := by omega
    have bit : 7 - (8 * index + (7 - place)) % 8 = place := by omega
    have agree := same (8 * index + (7 - place)) (by omega)
    rw [bitAt, bitAt, byte, bit] at agree
    simpa [leftInside, rightInside] using agree
  · have bounded : ∀ byte : UInt8, byte.toNat < 2 ^ place := fun byte =>
      Nat.lt_of_lt_of_le byte.toNat_lt (Nat.pow_le_pow_right (by decide) (Nat.le_of_not_lt low))
    rw [Nat.testBit_lt_two_pow (bounded _), Nat.testBit_lt_two_pow (bounded _)]

/-- A cleared row in which the bits are marked is the row of these bits. -/
theorem markAll_zeros {size : Nat} {bits : List Bool} (fits : bits.length ≤ 8 * size) :
    markAll (List.replicate size 0) 0 bits = row size bits := by
  apply ext
  · simp
  · intro wire below
    have inside : 0 + bits.length ≤ 8 * (List.replicate size (0 : UInt8)).length := by
      simpa using fits
    have clear : bitAt (List.replicate size 0) wire = false :=
      (bitAt_append_zeros [] size wire).trans (bitAt_of_length_le (Nat.zero_le _))
    rw [length_markAll, List.length_replicate] at below
    rw [bitAt_markAll inside, bitAt_row bits below, clear]
    simp

end Bits

namespace Ram

variable {lanes : Lanes}

/-- The wire with this number is the last one that the table sends to the cell. -/
structure LastNames (table : List UInt64) (address : UInt64) (number : Nat) : Prop where
  names : table[number]? = some address
  last : ∀ later, number < later → table[later]? ≠ some address

/-- Going on from some memory, rows have been packed through a table: every lane that has a row
holds in each listed cell the last wire for it. Lanes without a row and cells that are not listed
are as they were. -/
structure Spreads (table : List UInt64) (inputs : Bytes) (size batch : Nat)
    (ram packed : Ram lanes) : Prop where
  counted : packed.size = ram.size
  filled : ∀ address ∈ table, ∃ number, LastNames table address number ∧
    ∀ row < min batch (inputs.length / size),
      (packed.cell address).lane row = Bits.wire size inputs row number
  lanesKept : ∀ lane < lanes.count, min batch (inputs.length / size) ≤ lane →
    ∀ address : UInt64, (packed.cell address).lane lane = (ram.cell address).lane lane
  cellsKept : ∀ index : Nat, (∀ address ∈ table, address.toNat ≠ index) →
    packed[index]? = ram[index]?

/-- A buffer has been unpacked into through a table: every row of the batch that the buffer has room
for holds the wires of its lane, and zeros behind them. The bytes behind these rows are as they
were. -/
structure Gathers (ram : Ram lanes) (table : List UInt64) (size batch : Nat)
    (before after : Bytes) : Prop where
  sized : after.length = before.length
  wires : ∀ row < min batch (before.length / size), ∀ number address,
    table[number]? = some address → Bits.wire size after row number = (ram.cell address).lane row
  padding : ∀ row < min batch (before.length / size), ∀ number < 8 * size,
    table.length ≤ number → Bits.wire size after row number = false
  behind : after.drop (min batch (before.length / size) * size) =
    before.drop (min batch (before.length / size) * size)

/-- Unpacks lane by lane into the rows at the front of a buffer, as long as there is a complete
one. -/
def unpackRowsInPlace (ram : Ram lanes) (table : List UInt64) (size : Nat) :
    (lane count : Nat) → Bytes → Bytes
  | _, 0, buffer => buffer
  | lane, count + 1, buffer =>
    match Field.split? size buffer with
    | none => buffer
    | some (row, later) =>
      Bits.markAll (row.map fun _ => 0) 0 (ram.laneBits table lane) ++
        unpackRowsInPlace ram table size (lane + 1) count later

/-- Unpacks a batch into the buffer itself. -/
def unpackInPlace (ram : Ram lanes) (table : List UInt64) (outputs : Bytes) (size batch : Nat) :
    Bytes :=
  if size = 0 then outputs else ram.unpackRowsInPlace table size 0 batch outputs

section Pack

variable {ram : Ram lanes} {table : List UInt64} {inputs : Bytes} {size batch : Nat}

/-- Some wire is the last one for a listed cell. -/
theorem exists_lastNames {address : UInt64} (listed : address ∈ table) :
    ∃ number, LastNames table address number := by
  obtain ⟨number, _, found, rfl, last⟩ := exists_last ⟨address, listed, rfl⟩
  exact ⟨number, found, fun later behind again => last later _ behind again rfl⟩

theorem LastNames.lt_length {address : UInt64} {number : Nat}
    (last : LastNames table address number) : number < table.length :=
  (List.getElem?_eq_some_iff.mp last.names).1

/-- After a row has been stored, a listed cell holds the last wire for it. -/
theorem LastNames.store_eq {address : UInt64} {number : Nat} (last : LastNames table address number)
    (cells : Cells) (bit : Nat → Bool) :
    cells.store (table.zip ((List.range table.length).map bit)) address = bit number := by
  apply cells.store_of_last
  · apply List.getElem?_zip_eq_some.mpr
    refine ⟨last.names, ?_⟩
    rw [List.getElem?_map, List.getElem?_range last.lt_length]
    rfl
  · intro later pair behind found
    have named := (List.getElem?_zip_eq_some.mp found).1
    exact fun same => last.last later behind (same ▸ named)

/-- Storing a row changes no cell that is not listed. -/
theorem getElem?_storeLane {lane index : Nat} {pairs : List (UInt64 × Bool)}
    (apart : ∀ pair ∈ pairs, pair.1.toNat ≠ index) :
    (ram.storeLane lane pairs)[index]? = ram[index]? := by
  induction pairs generalizing ram with
  | nil => rfl
  | cons pair pairs ih =>
    have here := apart pair (.head _)
    have later := fun other member => apart other (.tail _ member)
    rw [storeLane, ih later, Array.getElem?_modify, if_neg here]

theorem getElem?_storeRows {lane index : Nat} {rows : List Bytes}
    (apart : ∀ address ∈ table, address.toNat ≠ index) :
    (ram.storeRows table lane rows)[index]? = ram[index]? := by
  induction rows generalizing ram lane with
  | nil => rfl
  | cons row rows ih =>
    rw [storeRows, ih]
    apply getElem?_storeLane
    intro pair member
    exact apart pair.1 (List.of_mem_zip member).1

theorem spreads_pack (inside : ∀ address ∈ table, address.toNat < ram.size)
    (covered : table.length ≤ 8 * size) (fits : batch ≤ lanes.count) :
    Spreads table inputs size batch ram (ram.pack table inputs size batch) where
  counted := size_pack inputs size batch
  filled := by
    intro address listed
    obtain ⟨number, last⟩ := exists_lastNames listed
    refine ⟨number, last, ?_⟩
    intro row occupied
    have laneInside : row < lanes.count := by omega
    have cells : (ram.pack table inputs size batch).laneCells row = _ :=
      laneCells_pack inside covered fits laneInside
    rw [if_pos occupied] at cells
    exact (congrFun cells address).trans (last.store_eq _ _)
  lanesKept := by
    intro lane laneInside vacant address
    have cells : (ram.pack table inputs size batch).laneCells lane = _ :=
      laneCells_pack inside covered fits laneInside
    rw [if_neg (Nat.not_lt_of_le vacant)] at cells
    exact congrFun cells address
  cellsKept := by
    intro index apart
    unfold pack
    split
    · rfl
    · exact getElem?_storeRows apart

end Pack

section Unpack

variable {ram : Ram lanes} {table : List UInt64} {outputs : Bytes} {size batch : Nat}

theorem gathers_unpack (covered : table.length ≤ 8 * size) :
    Gathers ram table size batch outputs (ram.unpack table outputs size batch) where
  sized := ram.length_unpack
  wires := by
    intro row occupied number address names
    have listed := (List.getElem?_eq_some_iff.mp names).1
    rw [ram.wire_unpack occupied (Nat.lt_of_lt_of_le listed covered), names]
    rfl
  padding := by
    intro row occupied number below unlisted
    rw [ram.wire_unpack occupied below, List.getElem?_eq_none unlisted]
    rfl
  behind := ram.drop_unpack

/-- Each complete row is replaced by that of its lane. -/
theorem unpackRowsInPlace_eq (covered : table.length ≤ 8 * size) (nonempty : 0 < size)
    (lane count : Nat) (buffer : Bytes) :
    ram.unpackRowsInPlace table size lane count buffer =
      (List.range' lane (min count (buffer.length / size))).flatMap
          (fun lane => Bits.row size (ram.laneBits table lane)) ++
        buffer.drop (min count (buffer.length / size) * size) := by
  induction count generalizing lane buffer with
  | zero => simp [unpackRowsInPlace]
  | succ count ih =>
    unfold unpackRowsInPlace
    cases split : Field.split? size buffer with
    | none =>
      have short : buffer.length < size := Field.split?_eq_none_iff.mp split
      simp [Nat.div_eq_of_lt short]
    | some parts =>
      obtain ⟨row, later⟩ := parts
      obtain ⟨rfl, sized⟩ := Field.split?_eq_some_iff.mp split
      have fits : (ram.laneBits table lane).length ≤ 8 * size := by
        simpa [laneBits] using covered
      have marked : Bits.markAll (row.map fun _ => 0) 0 (ram.laneBits table lane) =
          Bits.row size (ram.laneBits table lane) := by
        rw [List.map_const', sized, Bits.markAll_zeros fits]
      have more : (row ++ later).length / size = later.length / size + 1 := by
        rw [List.length_append, sized, Nat.add_div_left _ nonempty]
      have skip : (min count (later.length / size) + 1) * size =
          row.length + min count (later.length / size) * size := by
        rw [Nat.succ_mul, sized, Nat.add_comm]
      simp only [marked, ih]
      rw [more, Nat.add_min_add_right, List.range'_succ, List.flatMap_cons, skip,
        List.drop_length_add_append, List.append_assoc]

theorem unpackInPlace_eq (covered : table.length ≤ 8 * size) :
    ram.unpackInPlace table outputs size batch = ram.unpack table outputs size batch := by
  unfold unpackInPlace
  split
  · next empty => rw [unpack, if_pos empty]
  · next some =>
    rw [unpackRowsInPlace_eq covered (Nat.pos_of_ne_zero some), unpack_eq, List.range_eq_range']

end Unpack

/-- Unpacking what was packed gives the wires of each row back, if no two share a cell. -/
theorem Spreads.wire_unpacked {ram packed : Ram lanes} {table : List UInt64}
    {inputs before after : Bytes} {size batch : Nat}
    (spreads : Spreads table inputs size batch ram packed)
    (gathers : Gathers packed table size batch before after) (distinct : table.Nodup) {row : Nat}
    (given : row < min batch (inputs.length / size))
    (asked : row < min batch (before.length / size)) {number : Nat} (below : number < 8 * size) :
    Bits.wire size after row number =
      (decide (number < table.length) && Bits.wire size inputs row number) := by
  by_cases listed : number < table.length
  · have names : table[number]? = some table[number] := List.getElem?_eq_getElem listed
    obtain ⟨named, last, bits⟩ := spreads.filled table[number] (List.getElem_mem listed)
    obtain rfl : number = named :=
      (List.getElem?_inj listed distinct).mp (names.trans last.names.symm)
    rw [gathers.wires row asked number _ names, bits row given, decide_eq_true listed,
      Bool.true_and]
  · rw [gathers.padding row asked number below (Nat.le_of_not_lt listed),
      decide_eq_false listed, Bool.false_and]

/-- Packing and unpacking transpose exactly and touch nothing else. The table may name cells
repeatedly, as long as they lie in the memory and a row has a bit for each entry, and the batch fits
the register; the memory, the inputs and the buffer are arbitrary. Then packing finds every byte and
every cell it needs, gives each lane that has a complete row the last wire for each listed cell, and
keeps all other lanes and cells. Unpacking finds them as well, writes the complete rows of the batch
and keeps the bytes behind them, whether the rows are put together or marked in the buffer. Rows
without bytes change nothing. Through a table without repetitions, each row that was packed comes
back with its wires, and zeros behind them. -/
theorem packing_transposes (ram : Ram lanes) (table : List UInt64) (size batch : Nat)
    (inside : ∀ address ∈ table, address.toNat < ram.size) (covered : table.length ≤ 8 * size)
    (fits : batch ≤ lanes.count) :
    (∀ inputs : Bytes,
        ram.packChecked table inputs size batch = some (ram.pack table inputs size batch) ∧
          Spreads table inputs size batch ram (ram.pack table inputs size batch)) ∧
      (∀ outputs : Bytes,
        ram.unpackChecked table outputs size batch = some (ram.unpack table outputs size batch) ∧
          ram.unpackInPlace table outputs size batch = ram.unpack table outputs size batch ∧
          Gathers ram table size batch outputs (ram.unpack table outputs size batch)) ∧
      (∀ inputs outputs : Bytes, ram.pack table inputs 0 batch = ram ∧
        ram.unpack table outputs 0 batch = outputs) ∧
      (table.Nodup → ∀ inputs outputs : Bytes,
        let packed := ram.pack table inputs size batch
        let unpacked := packed.unpack table outputs size batch
        ∀ row < min batch (inputs.length / size), row < min batch (outputs.length / size) →
          ∀ number < 8 * size, Bits.wire size unpacked row number =
            (decide (number < table.length) && Bits.wire size inputs row number)) := by
  refine ⟨?_, ?_, ?_, ?_⟩
  · intro inputs
    exact ⟨packChecked_eq inside covered, spreads_pack inside covered fits⟩
  · intro outputs
    exact ⟨unpackChecked_eq inside covered, unpackInPlace_eq covered, gathers_unpack covered⟩
  · intro inputs outputs
    exact ⟨if_pos rfl, if_pos rfl⟩
  · intro distinct inputs outputs packed unpacked row given asked number below
    exact (spreads_pack inside covered fits).wire_unpacked (gathers_unpack covered) distinct given
      asked below

/-- Two rows and a torn one, packed into a memory in use: the cell that two wires share takes the
later one. Through a table that names each cell once, a wire of the second row comes back. -/
theorem shared_cell_takes_later_wire :
    let ram : Ram .eight := #[0xff, 0x0f, 0xf0]
    let inputs : Bytes := [0b10100000, 0, 0b01000000, 0, 0b11111111]
    (∀ address ∈ [2, 0, (2 : UInt64)], address.toNat < ram.size) ∧
      [2, 0, (2 : UInt64)].length ≤ 8 * 2 ∧ 2 ≤ Lanes.eight.count ∧
      ram.packChecked [2, 0, 2] inputs 2 2 = some #[0xfe, 0x0f, 0xf1] ∧
      Spreads [2, 0, 2] inputs 2 2 ram #[0xfe, 0x0f, 0xf1] ∧
      Bits.wire 2 ((ram.pack [2, 0] inputs 2 2).unpack [2, 0] [255, 255, 255, 255] 2 2) 1 1 =
        true := by
  intro ram inputs
  have inside : ∀ address ∈ [2, 0, (2 : UInt64)], address.toNat < ram.size := by simp [ram]
  have result : ram.pack [2, 0, 2] inputs 2 2 = #[0xfe, 0x0f, 0xf1] := by decide
  obtain ⟨packing, -⟩ := packing_transposes ram [2, 0, 2] 2 2 inside (by decide) (by decide)
  obtain ⟨checked, spreads⟩ := packing inputs
  rw [result] at checked spreads
  obtain ⟨-, -, -, back⟩ :=
    packing_transposes ram [2, 0] 2 2 (by simp [ram]) (by decide) (by decide)
  have wire := back (by decide) inputs [255, 255, 255, 255] 1 (by decide) (by decide) 1 (by decide)
  exact ⟨inside, by decide, by decide, checked, spreads, wire.trans (by decide)⟩

end Ram

end Bitslice
