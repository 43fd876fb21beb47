import Bitslice.Circuit.Load
import Bitslice.Proofs.Headers
import Bitslice.Proofs.Records
import Bitslice.Proofs.Sources

/-!
# What loading accepts

`Circuit.Sound` is what a circuit keeps from being loaded on: counted tables,
decoded gates, and addresses inside the memory. `Circuit.text` is the
descriptor of a circuit in a layout. `Circuit.read_eq_ok_iff` says that loading
accepts exactly the texts of sound circuits, served to a good end.
-/

namespace Bitslice

/-- The source has handed over `bytes` and is then in the state `later`. -/
structure ByteSource.Delivers (source : ByteSource) (bytes : Bytes) (later : ByteSource) :
    Prop where
  contents : source.contents = bytes ++ later.contents
  failure : later.failure = source.failure

theorem ByteSource.Delivers.trans {source middle later : ByteSource} {first second : Bytes}
    (before : source.Delivers first middle) (after : middle.Delivers second later) :
    source.Delivers (first ++ second) later where
  contents := by rw [before.contents, after.contents, List.append_assoc]
  failure := after.failure.trans before.failure

theorem ByteSource.Delivers.contents_eq {source later : ByteSource} {bytes rest : Bytes}
    (delivered : source.Delivers bytes later) (whole : source.contents = bytes ++ rest) :
    later.contents = rest :=
  List.append_cancel_left (delivered.contents.symm.trans whole)

namespace Circuit

section Parts

variable {part : Section} {source later : ByteSource} {bytes rest : Bytes}

theorem delivers_of_readPart {count : Nat}
    (read : readPart part count source = .ok (bytes, later)) :
    source.Delivers bytes later ∧ bytes.length = count := by
  unfold readPart at read
  split at read
  · next filled =>
    obtain ⟨rfl, rfl⟩ := Prod.mk.inj (Except.ok.inj read)
    obtain ⟨whole, sized, ending⟩ := ByteSource.contents_of_fill_complete filled
    exact ⟨⟨whole, ending⟩, sized⟩
  · cases read
  · split at read <;> cases read

theorem fill_of_append (whole : source.contents = bytes ++ rest) :
    ∃ later, source.fill bytes.length = (.complete bytes, later) ∧
      source.Delivers bytes later := by
  have enough : bytes.length ≤ source.contents.length := by simp [whole]
  have filled := ByteSource.fill_of_le enough
  rw [whole, List.take_left] at filled
  obtain ⟨contents, -, ending⟩ := ByteSource.contents_of_fill_complete filled
  exact ⟨_, filled, contents, ending⟩

theorem readPart_of_append (part : Section) (whole : source.contents = bytes ++ rest) :
    ∃ later, readPart part bytes.length source = .ok (bytes, later) ∧
      source.Delivers bytes later := by
  obtain ⟨later, filled, delivered⟩ := fill_of_append whole
  exact ⟨later, by rw [readPart, filled], delivered⟩

end Parts

section HeaderPart

variable {source later : ByteSource} {layout : Layout} {header : Header}

theorem delivers_of_readHeader (read : readHeader source = .ok (layout, header, later)) :
    layout = Layout.announced source.contents ∧ header.check = .ok () ∧
      header.Carried layout ∧ source.Delivers (header.text layout) later := by
  obtain ⟨⟨leading, middle⟩, first, second⟩ := bind_eq_ok_iff.mp read
  obtain ⟨⟨others, last⟩, second, decoded⟩ := bind_eq_ok_iff.mp second
  obtain ⟨firstDelivered, four⟩ := delivers_of_readPart first
  obtain ⟨secondDelivered, left⟩ := delivers_of_readPart second
  have announced : Layout.announced source.contents = Layout.announced leading := by
    rw [firstDelivered.contents, Layout.announced_append four]
  simp only at decoded
  split at decoded
  · cases decoded
  · next found accepted =>
    obtain ⟨rfl, same⟩ := Prod.mk.inj (Except.ok.inj decoded)
    obtain ⟨rfl, rfl⟩ := Prod.mk.inj same
    obtain ⟨checked, carried, rest, whole⟩ := Header.decode_eq_ok_iff.mp accepted
    have exact : leading ++ others = found.text (Layout.announced leading) := by
      have sizes : (leading ++ others).length = (Layout.announced leading).headerSize := by
        have large := (Layout.announced leading).headerSize_bounded.1
        rw [List.length_append]
        omega
      have none : rest = [] := by
        rw [whole, List.length_append, Header.length_text] at sizes
        exact List.length_eq_zero_iff.mp (by omega)
      rw [whole, none, List.append_nil]
    refine ⟨announced.symm, checked, carried, ?_⟩
    rw [← exact]
    exact firstDelivered.trans secondDelivered

theorem readHeader_of_append {rest : Bytes} (checked : header.check = .ok ())
    (carried : header.Carried layout) (announced : Layout.announced source.contents = layout)
    (whole : source.contents = header.text layout ++ rest) :
    ∃ later, readHeader source = .ok (layout, header, later) ∧
      source.Delivers (header.text layout) later := by
  have sized := header.length_text layout
  have large := layout.headerSize_bounded.1
  have four : ((header.text layout).take 4).length = 4 := by
    rw [List.length_take]
    omega
  have left : ((header.text layout).drop 4).length = layout.headerSize - 4 := by
    rw [List.length_drop, sized]
  have cut : source.contents =
      (header.text layout).take 4 ++ ((header.text layout).drop 4 ++ rest) := by
    rw [whole, ← List.append_assoc, List.take_append_drop]
  obtain ⟨middle, first, firstDelivered⟩ := readPart_of_append .header cut
  obtain ⟨later, second, secondDelivered⟩ :=
    readPart_of_append .header (firstDelivered.contents_eq cut)
  have delivered := firstDelivered.trans secondDelivered
  rw [List.take_append_drop] at delivered
  have found : Layout.announced ((header.text layout).take 4) = layout := by
    rw [cut, Layout.announced_append four] at announced
    exact announced
  have decoded : Header.decode layout (header.text layout) = .ok header :=
    Header.decode_eq_ok_iff.mpr ⟨checked, carried, [], by simp⟩
  rw [four] at first
  rw [left] at second
  refine ⟨later, ?_, delivered⟩
  rw [readHeader, first]
  refine bind_eq_ok_iff.mpr ⟨_, rfl, ?_⟩
  simp only [found, second]
  refine bind_eq_ok_iff.mpr ⟨_, rfl, ?_⟩
  simp only [List.take_append_drop, decoded]

end HeaderPart

section Tables

variable {width : Nat}

@[simp] theorem length_fields (count : Nat) (bytes : Bytes) :
    (fields width count bytes).length = count := by
  induction count generalizing bytes with
  | zero => rfl
  | succ count ih => simp [fields, ih]

theorem allDigits_fields (bounded : width ≤ 8) {count : Nat} {bytes : Bytes}
    (sized : bytes.length = count * width) :
    Field.allDigits width (fields width count bytes) = bytes := by
  induction count generalizing bytes with
  | zero =>
    rw [Nat.zero_mul] at sized
    rw [List.length_eq_zero_iff.mp sized]
    rfl
  | succ count ih =>
    rw [Nat.succ_mul] at sized
    have later : (bytes.drop width).length = count * width := by
      rw [List.length_drop]
      omega
    rw [fields, Field.allDigits_cons, ih later, Field.digits_decode bounded (by omega),
      List.take_append_drop]

theorem fields_allDigits (bounded : width ≤ 8) {numbers : List UInt64}
    (fit : ∀ number ∈ numbers, number.toNat < Field.capacity width) :
    fields width numbers.length (Field.allDigits width numbers) = numbers := by
  induction numbers with
  | nil => rfl
  | cons number numbers ih =>
    have first := Field.decode_digits_append bounded (fit number (.head _))
      (Field.allDigits width numbers)
    have others := ih fun other member => fit other (.tail _ member)
    rw [List.length_cons, fields, Field.allDigits_cons, first,
      List.drop_left' (Field.length_digits _ _), others]

theorem checkEntries_eq_ok_iff {table : Table} {memory : UInt64} {index : Nat}
    {addresses : List UInt64} :
    checkEntries table memory index addresses = .ok () ↔
      ∀ address ∈ addresses, address < memory := by
  induction addresses generalizing index with
  | nil => simp [checkEntries]
  | cons address addresses ih =>
    simp only [checkEntries, List.forall_mem_cons]
    split
    · next inside => simp [inside, ih]
    · next outside => simp [outside]

variable {table : Table} {header : Header} {source later : ByteSource}

theorem delivers_of_readEntries {remaining : Nat} {entries : Array UInt64} {listed : List UInt64}
    (read : readEntries table header remaining entries source = .ok (listed, later)) :
    ∃ addresses, listed = entries.toList ++ addresses ∧ addresses.length = remaining ∧
      (∀ address ∈ addresses, address < header.memory) ∧
      source.Delivers (Field.allDigits header.widths.address addresses) later := by
  fun_induction readEntries table header remaining entries source with
  | case1 entries source =>
    obtain ⟨rfl, rfl⟩ := Prod.mk.inj (Except.ok.inj read)
    exact ⟨[], by simp, rfl, by simp, rfl, rfl⟩
  | case2 => cases read
  | case3 => cases read
  | case4 remaining entries source some count bytes middle part group checked ih =>
    obtain ⟨others, rfl, counted, inside, delivered⟩ := ih read
    obtain ⟨first, sized⟩ := delivers_of_readPart part
    have groupInside := checkEntries_eq_ok_iff.mp checked
    have groupText := allDigits_fields header.widths.address_bounded.2 sized
    refine ⟨group ++ others, by simp, ?_, ?_, ?_⟩
    · rw [List.length_append, counted, length_fields]
      omega
    · intro address member
      rcases List.mem_append.mp member with here | there
      · exact groupInside address here
      · exact inside address there
    · rw [Field.allDigits_append, groupText]
      exact first.trans delivered

theorem readEntries_of_append (table : Table) {rest : Bytes} {addresses : List UInt64}
    (entries : Array UInt64)
    (addressable : header.memory.toNat ≤ Field.capacity header.widths.address)
    (inside : ∀ address ∈ addresses, address < header.memory)
    (whole : source.contents = Field.allDigits header.widths.address addresses ++ rest) :
    ∃ later, readEntries table header addresses.length entries source =
        .ok (entries.toList ++ addresses, later) ∧
      source.Delivers (Field.allDigits header.widths.address addresses) later := by
  induction lengths : addresses.length using Nat.strongRecOn
    generalizing addresses entries source with
  | ind length ih =>
    subst lengths
    by_cases none : addresses.length = 0
    · obtain rfl := List.length_eq_zero_iff.mp none
      refine ⟨source, ?_, by simp, rfl⟩
      rw [readEntries, if_pos none, List.append_nil]
    · -- The table is cut where the next group ends.
      let count := min addresses.length entriesPerRead
      let group := addresses.take count
      let others := addresses.drop count
      have some : 0 < count := by
        have : 0 < entriesPerRead := by decide
        omega
      have joined : group ++ others = addresses := List.take_append_drop count addresses
      have grouped : group.length = count := by
        rw [List.length_take]
        omega
      have left : others.length = addresses.length - count := List.length_drop
      have inGroup : ∀ address ∈ group, address < header.memory :=
        fun address member => inside address (List.mem_of_mem_take member)
      have inOthers : ∀ address ∈ others, address < header.memory :=
        fun address member => inside address (List.mem_of_mem_drop member)
      have fit : ∀ address ∈ group,
          address.toNat < Field.capacity header.widths.address :=
        fun address member => Nat.lt_of_lt_of_le (inGroup address member) addressable
      have cut : source.contents = Field.allDigits header.widths.address group ++
          (Field.allDigits header.widths.address others ++ rest) := by
        rw [whole, ← joined, Field.allDigits_append, List.append_assoc]
      obtain ⟨middle, part, first⟩ := readPart_of_append .addressTable cut
      obtain ⟨later, read, second⟩ := ih others.length (by omega) (entries ++ group) inOthers
        (first.contents_eq cut) rfl
      have delivered := first.trans second
      rw [← Field.allDigits_append, joined] at delivered
      have text := fields_allDigits header.widths.address_bounded.2 fit
      rw [grouped] at text
      rw [Field.length_allDigits, grouped] at part
      rw [left] at read
      refine ⟨later, ?_, delivered⟩
      rw [readEntries, if_neg none]
      simp only [count] at part text read
      simp only [part, text, checkEntries_eq_ok_iff.mpr inGroup, read]
      rw [Array.toList_appendList, List.append_assoc, joined]

end Tables

/-- Counting succeeds exactly on gates that all stay inside the memory. -/
theorem countGates_eq_ok_iff {memory : UInt64} {count total : Nat}
    {items : List (Except Malformed Gate)} :
    countGates memory count items = .ok total ↔
      ∃ gates : List Gate, items = gates.map .ok ∧
        (∀ gate ∈ gates, ∀ address ∈ gate.addresses, address < memory) ∧
        total = count + gates.length := by
  constructor
  · intro counted
    induction items generalizing count with
    | nil =>
      obtain rfl := Except.ok.inj counted
      exact ⟨[], rfl, by simp, rfl⟩
    | cons item items ih =>
      cases item with
      | error cause => cases counted
      | ok gate =>
        simp only [countGates] at counted
        split at counted
        · cases counted
        · next checked =>
          obtain ⟨gates, rfl, inside, rfl⟩ := ih counted
          refine ⟨gate :: gates, rfl, ?_, by simp only [List.length_cons]; omega⟩
          rintro other (_ | ⟨_, member⟩)
          · exact Gate.check_eq_ok_iff.mp checked
          · exact inside other member
  · rintro ⟨gates, rfl, inside, rfl⟩
    induction gates generalizing count with
    | nil => rfl
    | cons gate gates ih =>
      have checked := Gate.check_eq_ok_iff.mpr (inside gate (.head _))
      have others : countGates memory (count + 1) (gates.map .ok) =
          .ok (count + 1 + gates.length) :=
        ih fun other member => inside other (.tail _ member)
      rw [List.map_cons, countGates, checked]
      simp only [others, List.length_cons]
      rw [Nat.add_assoc, Nat.add_comm 1]

theorem checkEnd_eq_ok_iff {source : ByteSource} :
    checkEnd source = .ok () ↔ source.contents = [] ∧ source.failure = none := by
  constructor
  · intro ended
    unfold checkEnd at ended
    split at ended
    · cases ended
    · next filled =>
      obtain ⟨whole, sized, sound⟩ := ByteSource.contents_of_fill_short filled
      exact ⟨by rw [whole]; exact List.length_eq_zero_iff.mp (by omega), sound⟩
    · cases ended
  · rintro ⟨empty, sound⟩
    have answer := ByteSource.fill_eq_outcome 1 source
    rw [empty, sound] at answer
    have filled : source.fill 1 = (.short [], (source.fill 1).2) := by
      rw [← show (source.fill 1).1 = .short [] from answer]
    rw [checkEnd, filled]

theorem reserve_eq_ok_iff {reservation : Reservation} {buffer : Buffer} {length : UInt64}
    {size : Nat} : reserve reservation buffer length size = .ok () ↔
      reservation length.toNat size = true := by
  unfold reserve
  split
  · next granted => simp [granted]
  · next refused => simp [refused]

end Circuit

/-- The four buffers that loading asks for can be had. -/
structure Reservation.Grants (reservation : Reservation) (header : Header) (lanes : Lanes) :
    Prop where
  inputs : reservation header.inputCount.toNat 8 = true
  outputs : reservation header.outputCount.toNat 8 = true
  stream : reservation header.streamSize.toNat 1 = true
  memory : reservation header.memory.toNat lanes.bytes = true

namespace Circuit

variable {lanes : Lanes}

/-- What holds of a circuit with the given gates from being loaded on. -/
structure Sound (circuit : Circuit lanes) (gates : List Gate) : Prop where
  checked : circuit.header.check = .ok ()
  inputsCounted : circuit.inputs.length = circuit.header.inputCount.toNat
  outputsCounted : circuit.outputs.length = circuit.header.outputCount.toNat
  inputsInside : ∀ address ∈ circuit.inputs, address < circuit.header.memory
  outputsInside : ∀ address ∈ circuit.outputs, address < circuit.header.memory
  streamSized : circuit.stream.length = circuit.header.streamSize.toNat
  decoded : circuit.gates = gates.map .ok
  gatesCounted : gates.length = circuit.header.gateCount.toNat
  gatesInside : ∀ gate ∈ gates, ∀ address ∈ gate.addresses, address < circuit.header.memory
  cellsCounted : circuit.ram.size = circuit.header.memory.toNat

/-- The descriptor of a circuit in a layout. -/
def text (circuit : Circuit lanes) (layout : Layout) : Bytes :=
  circuit.header.text layout ++
    (Field.allDigits circuit.header.widths.address circuit.inputs ++
      (Field.allDigits circuit.header.widths.address circuit.outputs ++ circuit.stream))

/-- What loading has to find in order to answer with a circuit. -/
structure Accepted (reservation : Reservation) (length : Option UInt64) (source : ByteSource)
    (circuit : Circuit lanes) : Prop where
  sound : ∃ gates, circuit.Sound gates
  cleared : circuit.ram = Ram.zeros lanes circuit.header.memory.toNat
  carried : circuit.header.Carried (Layout.announced source.contents)
  whole : source.contents = circuit.text (Layout.announced source.contents)
  ended : source.failure = none
  lengthAgrees : checkLength (Layout.announced source.contents) circuit.header length = .ok ()
  granted : reservation.Grants circuit.header lanes

section Read

variable {reservation : Reservation} {source later : ByteSource} {header : Header}

theorem delivers_of_readTable {table : Table} {count : UInt64} {addresses : List UInt64}
    (read : readTable reservation table header count source = .ok (addresses, later)) :
    reservation count.toNat 8 = true ∧ addresses.length = count.toNat ∧
      (∀ address ∈ addresses, address < header.memory) ∧
      source.Delivers (Field.allDigits header.widths.address addresses) later := by
  obtain ⟨reserved, read⟩ := check_bind_eq_ok_iff.mp read
  obtain ⟨listed, rfl, counted, inside, delivered⟩ := delivers_of_readEntries read
  exact ⟨reserve_eq_ok_iff.mp reserved, counted, inside, delivered⟩

theorem readTable_of_append (table : Table) {count : UInt64} {addresses : List UInt64}
    {rest : Bytes} (granted : reservation count.toNat 8 = true)
    (addressable : header.memory.toNat ≤ Field.capacity header.widths.address)
    (counted : addresses.length = count.toNat)
    (inside : ∀ address ∈ addresses, address < header.memory)
    (whole : source.contents = Field.allDigits header.widths.address addresses ++ rest) :
    ∃ later, readTable reservation table header count source = .ok (addresses, later) ∧
      source.Delivers (Field.allDigits header.widths.address addresses) later := by
  obtain ⟨later, read, delivered⟩ :=
    readEntries_of_append table #[] addressable inside whole
  rw [counted] at read
  exact ⟨later, check_bind_eq_ok_iff.mpr ⟨reserve_eq_ok_iff.mpr granted, read⟩, delivered⟩

theorem delivers_of_readStream {stream : Bytes}
    (read : readStream reservation header source = .ok (stream, later)) :
    reservation header.streamSize.toNat 1 = true ∧ stream.length = header.streamSize.toNat ∧
      source.Delivers stream later ∧
      ∃ gates : List Gate, GateStream.items header.widths stream = gates.map .ok ∧
        (∀ gate ∈ gates, ∀ address ∈ gate.addresses, address < header.memory) ∧
        gates.length = header.gateCount.toNat := by
  obtain ⟨reserved, read⟩ := check_bind_eq_ok_iff.mp read
  split at read
  · cases read
  · cases read
  · next found rest filled =>
    obtain ⟨whole, sized, ending⟩ := ByteSource.contents_of_fill_complete filled
    obtain ⟨count, counted, read⟩ := bind_eq_ok_iff.mp read
    obtain ⟨gates, decoded, inside, rfl⟩ := countGates_eq_ok_iff.mp counted
    split at read
    · next same =>
      obtain ⟨rfl, rfl⟩ := Prod.mk.inj (Except.ok.inj read)
      exact ⟨reserve_eq_ok_iff.mp reserved, sized, ⟨whole, ending⟩, gates, decoded, inside,
        by omega⟩
    · cases read

theorem readStream_of_append {stream rest : Bytes} {gates : List Gate}
    (granted : reservation header.streamSize.toNat 1 = true)
    (sized : stream.length = header.streamSize.toNat)
    (decoded : GateStream.items header.widths stream = gates.map .ok)
    (inside : ∀ gate ∈ gates, ∀ address ∈ gate.addresses, address < header.memory)
    (counted : gates.length = header.gateCount.toNat)
    (whole : source.contents = stream ++ rest) :
    ∃ later, readStream reservation header source = .ok (stream, later) ∧
      source.Delivers stream later := by
  obtain ⟨later, filled, delivered⟩ := fill_of_append whole
  rw [sized] at filled
  have total : countGates header.memory 0 (GateStream.items header.widths stream) =
      .ok gates.length :=
    countGates_eq_ok_iff.mpr ⟨gates, decoded, inside, (Nat.zero_add _).symm⟩
  refine ⟨later, check_bind_eq_ok_iff.mpr ⟨reserve_eq_ok_iff.mpr granted, ?_⟩, delivered⟩
  simp only [filled]
  exact bind_eq_ok_iff.mpr ⟨gates.length, total, if_pos counted⟩

variable {length : Option UInt64} {circuit : Circuit lanes}

theorem accepted_of_read (loaded : read lanes reservation length source = .ok circuit) :
    Accepted reservation length source circuit := by
  obtain ⟨⟨layout, header, afterHeader⟩, headerRead, loaded⟩ := bind_eq_ok_iff.mp loaded
  obtain ⟨lengthAgrees, loaded⟩ := check_bind_eq_ok_iff.mp loaded
  obtain ⟨⟨inputs, afterInputs⟩, inputsRead, loaded⟩ := bind_eq_ok_iff.mp loaded
  obtain ⟨⟨outputs, afterOutputs⟩, outputsRead, loaded⟩ := bind_eq_ok_iff.mp loaded
  obtain ⟨⟨stream, afterStream⟩, streamRead, loaded⟩ := bind_eq_ok_iff.mp loaded
  obtain ⟨ended, loaded⟩ := check_bind_eq_ok_iff.mp loaded
  obtain ⟨memoryGranted, same⟩ := check_bind_eq_ok_iff.mp loaded
  obtain rfl := Except.ok.inj same
  obtain ⟨rfl, checked, carried, headerDelivered⟩ := delivers_of_readHeader headerRead
  obtain ⟨inputsGranted, inputsCounted, inputsInside, inputsDelivered⟩ :=
    delivers_of_readTable inputsRead
  obtain ⟨outputsGranted, outputsCounted, outputsInside, outputsDelivered⟩ :=
    delivers_of_readTable outputsRead
  obtain ⟨streamGranted, streamSized, streamDelivered, gates, decoded, gatesInside,
    gatesCounted⟩ := delivers_of_readStream streamRead
  obtain ⟨empty, sound⟩ := checkEnd_eq_ok_iff.mp ended
  have delivered := headerDelivered.trans (inputsDelivered.trans
    (outputsDelivered.trans streamDelivered))
  exact {
    sound := ⟨gates, {
      checked, inputsCounted, outputsCounted, inputsInside, outputsInside, streamSized, decoded
      gatesCounted, gatesInside
      cellsCounted := by simp [Ram.zeros] }⟩
    cleared := rfl
    carried
    whole := by
      have served := delivered.contents
      rw [empty, List.append_nil] at served
      exact served
    ended := delivered.failure.symm.trans sound
    lengthAgrees
    granted := ⟨inputsGranted, outputsGranted, streamGranted, reserve_eq_ok_iff.mp memoryGranted⟩ }

theorem read_of_accepted (accepted : Accepted reservation length source circuit) :
    read lanes reservation length source = .ok circuit := by
  obtain ⟨⟨gates, sound⟩, cleared, carried, whole, ended, lengthAgrees, granted⟩ := accepted
  have addressable := (Header.check_eq_ok_iff.mp sound.checked).1
  generalize announced : Layout.announced source.contents = layout at carried whole lengthAgrees
  obtain ⟨afterHeader, headerRead, first⟩ :=
    readHeader_of_append sound.checked carried announced whole
  obtain ⟨afterInputs, inputsRead, second⟩ :=
    readTable_of_append .input granted.inputs addressable sound.inputsCounted sound.inputsInside
      (first.contents_eq whole)
  obtain ⟨afterOutputs, outputsRead, third⟩ :=
    readTable_of_append .output granted.outputs addressable sound.outputsCounted
      sound.outputsInside (second.contents_eq (first.contents_eq whole))
  have left : afterOutputs.contents = circuit.stream ++ [] := by
    rw [third.contents_eq (second.contents_eq (first.contents_eq whole)), List.append_nil]
  obtain ⟨afterStream, streamRead, fourth⟩ :=
    readStream_of_append granted.stream sound.streamSized sound.decoded sound.gatesInside
      sound.gatesCounted left
  have endChecked : checkEnd afterStream = .ok () := by
    refine checkEnd_eq_ok_iff.mpr ⟨fourth.contents_eq left, ?_⟩
    exact (first.trans (second.trans (third.trans fourth))).failure.trans ended
  refine bind_eq_ok_iff.mpr ⟨_, headerRead, ?_⟩
  refine check_bind_eq_ok_iff.mpr ⟨lengthAgrees, ?_⟩
  refine bind_eq_ok_iff.mpr ⟨_, inputsRead, ?_⟩
  refine bind_eq_ok_iff.mpr ⟨_, outputsRead, ?_⟩
  refine bind_eq_ok_iff.mpr ⟨_, streamRead, ?_⟩
  refine check_bind_eq_ok_iff.mpr ⟨endChecked, ?_⟩
  refine check_bind_eq_ok_iff.mpr ⟨reserve_eq_ok_iff.mpr granted.memory, ?_⟩
  rw [← cleared]

/-- Loading answers with exactly the circuits whose text the source serves. -/
theorem read_eq_ok_iff : read lanes reservation length source = .ok circuit ↔
    Accepted reservation length source circuit :=
  ⟨accepted_of_read, read_of_accepted⟩

/-- What was loaded on registers of some lanes can be loaded from the same bytes on any others. -/
theorem Accepted.onLanes (accepted : Accepted reservation length source circuit) (other : Lanes) :
    Accepted (fun _ _ => true) none (ByteSource.ofBytes source.contents)
      (⟨circuit.header, circuit.inputs, circuit.outputs, circuit.stream,
        Ram.zeros other circuit.header.memory.toNat⟩ : Circuit other) := by
  obtain ⟨⟨gates, sound⟩, -, carried, whole, -, -, -⟩ := accepted
  have cells : (Ram.zeros other circuit.header.memory.toNat).size = circuit.header.memory.toNat :=
    Array.size_replicate
  constructor
  · exact ⟨gates, sound.checked, sound.inputsCounted, sound.outputsCounted, sound.inputsInside,
      sound.outputsInside, sound.streamSized, sound.decoded, sound.gatesCounted,
      sound.gatesInside, cells⟩
  · rfl
  · rwa [ByteSource.contents_ofBytes]
  · rw [ByteSource.contents_ofBytes]
    exact whole
  · exact ByteSource.failure_ofBytes _
  · rfl
  · exact ⟨rfl, rfl, rfl, rfl⟩

/-- The bytes determine the program: what is loaded from them differs in its lanes only. -/
theorem program_of_contents {other : Lanes} {second : Circuit other}
    {otherReservation : Reservation} {otherLength : Option UInt64} {otherSource : ByteSource}
    (loaded : read lanes reservation length source = .ok circuit)
    (loadedToo : read other otherReservation otherLength otherSource = .ok second)
    (same : otherSource.contents = source.contents) :
    second.header = circuit.header ∧ second.inputs = circuit.inputs ∧
      second.outputs = circuit.outputs ∧ second.stream = circuit.stream := by
  have fromFirst := read_of_accepted ((accepted_of_read loaded).onLanes other)
  have fromSecond := read_of_accepted ((accepted_of_read loadedToo).onLanes other)
  rw [same, fromFirst] at fromSecond
  have programs := Circuit.mk.inj (Except.ok.inj fromSecond)
  exact ⟨programs.1.symm, programs.2.1.symm, programs.2.2.1.symm, programs.2.2.2.1.symm⟩

end Read

end Circuit

end Bitslice
