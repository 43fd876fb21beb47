import Bitslice.Proofs.Refinement

/-!
# Every index is inside its buffer

The checked operations look every cell and every byte up before they use it and
give up at the first that is not there. On a sound circuit they never give up,
and they do what the ordinary operations do.
-/

namespace Bitslice

variable {lanes : Lanes}

namespace Ram

/-- Stores a row into a lane, wire by wire, looking up the byte of each wire and its cell. -/
def storeLaneChecked (ram : Ram lanes) (lane : Nat) (row : Bytes) (wire : Nat) :
    List UInt64 → Option (Ram lanes)
  | [] => some ram
  | address :: later =>
    match row[wire / 8]?, ram[address.toNat]? with
    | some byte, some register =>
      let changed := register.setLane lane (byte.toNat.testBit (7 - wire % 8))
      storeLaneChecked (ram.write address changed) lane row (wire + 1) later
    | _, _ => none

/-- Stores rows into consecutive lanes. -/
def storeRowsChecked (ram : Ram lanes) (table : List UInt64) (lane : Nat) :
    List Bytes → Option (Ram lanes)
  | [] => some ram
  | row :: later =>
    match ram.storeLaneChecked lane row 0 table with
    | none => none
    | some ram => storeRowsChecked ram table (lane + 1) later

/-- Packs a batch. -/
def packChecked (ram : Ram lanes) (table : List UInt64) (inputs : Bytes) (size batch : Nat) :
    Option (Ram lanes) :=
  if size = 0 then some ram else ram.storeRowsChecked table 0 (Bits.rows size batch inputs)

/-- Reads a lane off the listed cells, for a row of so many bytes. -/
def laneBitsChecked (ram : Ram lanes) (size lane wire : Nat) : List UInt64 → Option (List Bool)
  | [] => some []
  | address :: later =>
    match ram[address.toNat]? with
    | none => none
    | some register =>
      if wire / 8 < size then
        (laneBitsChecked ram size lane (wire + 1) later).map (register.lane lane :: ·)
      else none

/-- The rows of consecutive lanes, as many as asked for. -/
def unpackRowsChecked (ram : Ram lanes) (table : List UInt64) (size : Nat) :
    (count : Nat) → Option Bytes
  | 0 => some []
  | count + 1 =>
    match unpackRowsChecked ram table size count, ram.laneBitsChecked size count 0 table with
    | some rows, some bits => some (rows ++ Bits.row size bits)
    | _, _ => none

/-- Unpacks a batch. -/
def unpackChecked (ram : Ram lanes) (table : List UInt64) (outputs : Bytes) (size batch : Nat) :
    Option Bytes :=
  if size = 0 then some outputs
  else
    let count := min batch (outputs.length / size)
    (ram.unpackRowsChecked table size count).map (· ++ outputs.drop (count * size))

section Checked

variable {ram : Ram lanes} {table : List UInt64}

theorem getElem?_of_inside {address : UInt64} (inside : address.toNat < ram.size) :
    ram[address.toNat]? = some (ram.cell address) := by
  rw [cell, Array.getElem?_eq_getElem inside]
  simp [inside]

theorem modify_eq_write {address : UInt64} (inside : address.toNat < ram.size)
    (change : Register lanes → Register lanes) :
    ram.modify address.toNat change = ram.write address (change (ram.cell address)) := by
  apply Array.ext
  · rw [Array.size_modify, size_write]
  · intro index left right
    rw [Array.getElem_modify]
    by_cases same : address.toNat = index
    · subst same
      simp [write, cell, inside]
    · have inArray : index < ram.size := by rwa [size_write] at right
      rw [if_neg same]
      exact (Array.getElem_setIfInBounds_ne inArray same).symm

theorem storeLaneChecked_eq {lane wire : Nat} {row : Bytes}
    (inside : ∀ address ∈ table, address.toNat < ram.size)
    (covered : wire + table.length ≤ 8 * row.length) :
    ram.storeLaneChecked lane row wire table =
      some (ram.storeLane lane (table.zip ((Bits.ofBytes row).drop wire))) := by
  induction table generalizing ram wire with
  | nil => rfl
  | cons address table ih =>
    rw [List.length_cons] at covered
    have here : address.toNat < ram.size := inside address (.head _)
    have present : wire / 8 < row.length := by omega
    have listed : wire < (Bits.ofBytes row).length := by
      rw [Bits.length_ofBytes]
      omega
    have bit : (Bits.ofBytes row)[wire] = row[wire / 8].toNat.testBit (7 - wire % 8) := by
      simp only [Bits.ofBytes_eq_map, List.getElem_map, List.getElem_range, Bits.bitAt]
      simp [present]
    rw [storeLaneChecked, List.getElem?_eq_getElem present, getElem?_of_inside here,
      List.drop_eq_getElem_cons listed, List.zip_cons_cons, storeLane, modify_eq_write here, bit]
    refine ih ?_ (by omega)
    intro other member
    rw [size_write]
    exact inside other (.tail _ member)

theorem storeRowsChecked_eq {lane size : Nat} {rows : List Bytes}
    (inside : ∀ address ∈ table, address.toNat < ram.size)
    (sized : ∀ row ∈ rows, row.length = size) (covered : table.length ≤ 8 * size) :
    ram.storeRowsChecked table lane rows = some (ram.storeRows table lane rows) := by
  induction rows generalizing ram lane with
  | nil => rfl
  | cons row rows ih =>
    have wide : 0 + table.length ≤ 8 * row.length := by
      rw [sized row (.head _), Nat.zero_add]
      exact covered
    rw [storeRowsChecked, storeLaneChecked_eq inside wide, storeRows, List.drop_zero]
    refine ih ?_ fun other member => sized other (.tail _ member)
    rw [size_storeLane]
    exact inside

theorem packChecked_eq {inputs : Bytes} {size batch : Nat}
    (inside : ∀ address ∈ table, address.toNat < ram.size) (covered : table.length ≤ 8 * size) :
    ram.packChecked table inputs size batch = some (ram.pack table inputs size batch) := by
  rw [packChecked, pack]
  by_cases empty : size = 0
  · rw [if_pos empty, if_pos empty]
  · rw [if_neg empty, if_neg empty]
    exact storeRowsChecked_eq inside (fun _ member => Bits.length_of_mem_rows member) covered

theorem laneBitsChecked_eq {size lane wire : Nat}
    (inside : ∀ address ∈ table, address.toNat < ram.size)
    (covered : wire + table.length ≤ 8 * size) :
    ram.laneBitsChecked size lane wire table = some (ram.laneBits table lane) := by
  induction table generalizing wire with
  | nil => rfl
  | cons address table ih =>
    rw [List.length_cons] at covered
    have below : wire / 8 < size := by omega
    have rest := ih (fun other member => inside other (.tail _ member))
      (show wire + 1 + table.length ≤ 8 * size by omega)
    rw [laneBitsChecked, getElem?_of_inside (inside address (.head _))]
    simp only [if_pos below, rest]
    rfl

theorem unpackRowsChecked_eq {size count : Nat}
    (inside : ∀ address ∈ table, address.toNat < ram.size) (covered : table.length ≤ 8 * size) :
    ram.unpackRowsChecked table size count =
      some ((List.range count).flatMap fun lane => Bits.row size (ram.laneBits table lane)) := by
  have wide : 0 + table.length ≤ 8 * size := by
    rw [Nat.zero_add]
    exact covered
  induction count with
  | zero => rfl
  | succ count ih =>
    rw [unpackRowsChecked, ih, laneBitsChecked_eq inside wide, List.range_succ,
      List.flatMap_append, List.flatMap_singleton]

theorem unpackChecked_eq {outputs : Bytes} {size batch : Nat}
    (inside : ∀ address ∈ table, address.toNat < ram.size) (covered : table.length ≤ 8 * size) :
    ram.unpackChecked table outputs size batch = some (ram.unpack table outputs size batch) := by
  rw [unpackChecked, unpack]
  by_cases empty : size = 0
  · rw [if_pos empty, if_pos empty]
  · rw [if_neg empty, if_neg empty]
    simp only [unpackRowsChecked_eq inside covered]
    rfl

end Checked

end Ram

namespace Circuit

variable {R : Type} [Recorder lanes R]

/-- A run that looks every cell up, also while packing and unpacking; gates always do. -/
def runChecked (circuit : Circuit lanes) (inputs outputs : Bytes) (recorder : R) (batch : Nat)
    (generator : Generator) : Option (Outcome lanes R) :=
  match circuit.checkArguments inputs.length outputs.length batch with
  | .error failure => some ⟨.error failure, circuit, outputs, recorder, generator⟩
  | .ok () =>
    match circuit.ram.cleared.packChecked circuit.inputs inputs circuit.header.inputBytes batch with
    | none => none
    | some packed =>
      match applyGates packed recorder generator circuit.gates with
      | (.error failure, progress) =>
        some ⟨.error failure, { circuit with ram := progress.ram }, outputs, progress.recorder,
          progress.generator⟩
      | (.ok (), progress) =>
        (progress.ram.unpackChecked circuit.outputs outputs circuit.header.outputBytes batch).map
          fun written => ⟨.ok (), { circuit with ram := progress.ram }, written, progress.recorder,
            progress.generator⟩

variable {ram : Ram lanes} {generator : Generator}

/-- Whatever the recorder does, gates inside the memory keep its size, and only the recorder can
stop them. -/
theorem applyGates_inside {gates : List Gate} (inside : ∀ gate ∈ gates, gate.Inside ram.size)
    {recorder : R} {result : Except RunFailure Unit} {progress : Progress lanes R}
    (applied : applyGates ram recorder generator (gates.map .ok) = (result, progress)) :
    progress.ram.size = ram.size ∧ (result = .ok () ∨ ∃ cause, result = .error (.trace cause)) := by
  induction gates generalizing ram generator recorder with
  | nil =>
    rw [List.map_nil, applyGates] at applied
    split at applied
    · obtain ⟨rfl, rfl⟩ := Prod.mk.inj applied
      exact ⟨rfl, .inl rfl⟩
    · obtain ⟨rfl, rfl⟩ := Prod.mk.inj applied
      exact ⟨rfl, .inr ⟨_, rfl⟩⟩
  | cons gate gates ih =>
    have evaluated : gate.evaluate ram generator = .ok (gate.value ram generator) :=
      Gate.evaluate_eq_ok (inside gate (.head _))
    rw [List.map_cons, applyGates, evaluated] at applied
    simp only at applied
    split at applied
    · obtain ⟨rfl, rfl⟩ := Prod.mk.inj applied
      exact ⟨Ram.size_write .., .inr ⟨_, rfl⟩⟩
    · have laterInside : ∀ later ∈ gates, later.Inside
          (ram.write gate.destination (gate.value ram generator).1).size := by
        intro later member
        rw [Ram.size_write]
        exact inside later (.tail _ member)
      obtain ⟨kept, stopped⟩ := ih laterInside applied
      exact ⟨kept.trans (Ram.size_write ..), stopped⟩

variable {circuit : Circuit lanes} {gates : List Gate}

/-- On a sound circuit no index is outside its buffer. -/
theorem Sound.runChecked_eq (sound : circuit.Sound gates) (inputs outputs : Bytes) (recorder : R)
    (batch : Nat) (generator : Generator) :
    circuit.runChecked inputs outputs recorder batch generator =
      some (circuit.run inputs outputs recorder batch generator) := by
  unfold runChecked run
  cases circuit.checkArguments inputs.length outputs.length batch with
  | error failure => rfl
  | ok accepted =>
    simp only [Ram.packChecked_eq sound.inputs_inside_cleared sound.inputs_covered, sound.decoded]
    rw [← packed]
    cases applied : applyGates (circuit.packed inputs batch) recorder generator
      (gates.map .ok) with
    | mk result progress =>
      have kept := (applyGates_inside (sound.gates_inside_packed inputs batch) applied).1
      have outputsInside : ∀ address ∈ circuit.outputs, address.toNat < progress.ram.size := by
        rw [kept, size_packed, sound.cellsCounted]
        exact sound.outputsInside
      cases result with
      | error failure => rfl
      | ok finished =>
        simp only [Ram.unpackChecked_eq outputsInside sound.outputs_covered]
        rfl

end Circuit

end Bitslice
