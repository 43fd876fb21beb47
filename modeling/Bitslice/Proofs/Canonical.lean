import Bitslice.Proofs.Building
import Bitslice.Proofs.Loading

/-!
# The descriptor format is canonical

Loading undoes building and building undoes loading. The counts of a finished
descriptor are exact as long as it stays below `2 ^ 60` bytes, because every
table entry and every record takes at least one byte; that is what
`Builder.Holds.counted` rests on, and the header check follows from it.
-/

namespace Bitslice

namespace Circuit

/-- A known length has to be the size of the text, which then has 64 bits. -/
theorem checkLength_eq_ok_iff {layout : Layout} {header : Header} {length : Option UInt64} :
    checkLength layout header length = .ok () ↔
      ∀ actual, length = some actual →
        actual.toNat = header.bodyLength + layout.headerSize := by
  cases length with
  | none => simp [checkLength]
  | some actual =>
    have sized : ∀ expected, header.descriptorSize layout = .ok expected ↔
        expected.toNat = header.bodyLength + layout.headerSize := by
      intro expected
      simp only [Header.descriptorSize, Header.bodySize, bind_eq_ok_iff,
        Header.checkedSize_eq_ok_iff]
      constructor
      · rintro ⟨body, ⟨bodySmall, rfl⟩, small, rfl⟩
        rw [UInt64.toNat_ofNat_of_lt' bodySmall] at small ⊢
        exact UInt64.toNat_ofNat_of_lt' small
      · intro same
        have bounded := expected.toNat_lt
        have bodySmall : header.bodyLength < UInt64.size := by
          rw [UInt64.size]
          omega
        refine ⟨UInt64.ofNat header.bodyLength, ⟨bodySmall, rfl⟩, ?_⟩
        rw [UInt64.toNat_ofNat_of_lt' bodySmall, ← same]
        exact ⟨bounded, UInt64.ofNat_toNat.symm⟩
    simp only [Option.some.injEq, forall_eq']
    rw [← sized]
    unfold checkLength
    simp only
    split
    · next overflow => simp [overflow]
    · next expected known =>
      simp only [known, Except.ok.injEq]
      split
      · next same => simp [same]
      · next other => simp [Ne.symm other]

end Circuit

namespace Builder

variable {builder : Builder} {additions : List Addition} {lanes : Lanes}

/-- The circuit that a finished descriptor describes. -/
def circuit (builder : Builder) (lanes : Lanes) : Circuit lanes :=
  ⟨builder.header, builder.inputs.toList, builder.outputs.toList, builder.stream.toList,
    Ram.zeros lanes builder.memory.toNat⟩

/-- The counts of the header are the true ones. -/
structure Counted (builder : Builder) : Prop where
  inputs : builder.header.inputCount.toNat = builder.inputs.size
  outputs : builder.header.outputCount.toNat = builder.outputs.size
  gates : builder.header.gateCount.toNat = builder.gateCount
  stream : builder.header.streamSize.toNat = builder.stream.size

/-- The stream of a builder is as long as that many records can be. -/
theorem Holds.stream_bounded (holds : builder.Holds additions) :
    builder.gateCount * (builder.widths.opcode + builder.widths.address) ≤ builder.stream.size ∧
      builder.stream.size ≤
        builder.gateCount * (builder.widths.opcode + 3 * builder.widths.address) := by
  have bounds := GateStream.length_flatMap_record builder.widths (Addition.gates additions)
  rw [← holds.streamHeld, ← holds.gatesCounted, Array.length_toList] at bounds
  exact bounds

theorem Holds.counted (holds : builder.Holds additions) (small : builder.encodedSize < 1 <<< 60) :
    builder.Counted := by
  have leastAddress := builder.widths.address_bounded.1
  have leastStream := holds.stream_bounded.1
  have tables : builder.inputs.size + builder.outputs.size ≤
      (builder.inputs.size + builder.outputs.size) * builder.widths.address :=
    Nat.le_mul_of_pos_right _ leastAddress
  have gates : builder.gateCount ≤
      builder.gateCount * (builder.widths.opcode + builder.widths.address) :=
    Nat.le_mul_of_pos_right _ (by omega)
  rw [encodedSize] at small
  constructor <;> exact UInt64.toNat_ofNat_of_lt' (by rw [UInt64.size]; omega)

/-- A descriptor below `2 ^ 60` bytes has a header that loading accepts. -/
theorem Holds.header_check (holds : builder.Holds additions)
    (small : builder.encodedSize < 1 <<< 60) : builder.header.check = .ok () := by
  obtain ⟨inputs, outputs, gates, stream⟩ := holds.counted small
  obtain ⟨least, greatest⟩ := holds.stream_bounded
  apply Header.check_eq_ok_of_small holds.addressable
  · rw [Header.leastStream, gates, stream]
    exact least
  · rw [Header.greatestStream, gates, stream]
    exact greatest
  · rw [encodedSize] at small
    rw [Header.bodyLength, inputs, outputs, stream]
    exact Nat.lt_of_le_of_lt (Nat.add_le_add_right (Nat.le_add_left _ _) _) small

theorem Holds.gates_inside (holds : builder.Holds additions) :
    ∀ gate ∈ Addition.gates additions, ∀ address ∈ gate.addresses, address < builder.memory := by
  intro gate member
  exact holds.inside _ (Addition.mem_gates.mp member)

/-- The stream of a builder is read back as the added gates, without their unread operands. -/
theorem Holds.decoded (holds : builder.Holds additions) :
    GateStream.items builder.widths builder.stream.toList =
      ((Addition.gates additions).map Gate.normalized).map .ok := by
  rw [holds.streamHeld]
  apply GateStream.items_records
  intro gate member address used
  exact Nat.lt_of_lt_of_le (holds.gates_inside gate member address used) holds.addressable

/-- The described circuit is sound if its counts are exact and its header passes the check. -/
theorem Holds.sound_of_counted (holds : builder.Holds additions) (counted : builder.Counted)
    (checked : builder.header.check = .ok ()) :
    (builder.circuit lanes).Sound ((Addition.gates additions).map Gate.normalized) where
  checked := checked
  inputsCounted := counted.inputs.symm
  outputsCounted := counted.outputs.symm
  inputsInside := by
    intro address member
    rw [circuit, holds.inputsHeld] at member
    exact holds.inside _ (Addition.mem_inputs.mp member) address (.head _)
  outputsInside := by
    intro address member
    rw [circuit, holds.outputsHeld] at member
    exact holds.inside _ (Addition.mem_outputs.mp member) address (.head _)
  streamSized := counted.stream.symm
  decoded := holds.decoded
  gatesCounted := by
    rw [List.length_map, ← holds.gatesCounted]
    exact counted.gates.symm
  gatesInside := by
    intro gate member
    obtain ⟨added, held, rfl⟩ := List.mem_map.mp member
    rw [Gate.addresses_normalized]
    exact holds.gates_inside added held
  cellsCounted := Array.size_replicate

/-- The described circuit is sound, and its gates are the added ones. -/
theorem Holds.sound (holds : builder.Holds additions) (small : builder.encodedSize < 1 <<< 60) :
    (builder.circuit lanes).Sound ((Addition.gates additions).map Gate.normalized) :=
  holds.sound_of_counted (holds.counted small) (holds.header_check small)

/-- The text of a builder is that of its circuit. -/
theorem text_circuit (builder : Builder) (lanes : Lanes) :
    (builder.circuit lanes).text builder.layout = builder.text := rfl

/-- The text announces the layout it is written in, unless an input count spells the magic
bytes. -/
theorem announced_text (counted : builder.Counted)
    (distinct : builder.layout = .fixed →
      builder.inputs.size % UInt32.size ≠ Field.value Layout.magic) :
    Layout.announced builder.text = builder.layout := by
  rw [text]
  cases layout : builder.layout with
  | fixed =>
    refine (Header.announced_text_fixed_iff _ _).mpr ?_
    rw [counted.inputs]
    exact distinct layout
  | selfDescribing => exact Header.announced_text_selfDescribing _ _

/-- Loading the text of a builder answers with its circuit. -/
theorem Holds.read_text (holds : builder.Holds additions) (small : builder.encodedSize < 1 <<< 60)
    (distinct : builder.layout = .fixed →
      builder.inputs.size % UInt32.size ≠ Field.value Layout.magic)
    {reservation : Reservation} {length : Option UInt64} {source : ByteSource}
    (served : source.contents = builder.text) (ended : source.failure = none)
    (known : length = none ∨ length = some (UInt64.ofNat builder.text.length))
    (granted : reservation.Grants builder.header lanes) :
    Circuit.read lanes reservation length source = .ok (builder.circuit lanes) := by
  have counted := holds.counted small
  have announced : Layout.announced source.contents = builder.layout := by
    rw [served]
    exact announced_text counted distinct
  have agrees : Circuit.checkLength builder.layout builder.header length = .ok () := by
    refine Circuit.checkLength_eq_ok_iff.mpr ?_
    rintro actual rfl
    have same : actual = UInt64.ofNat builder.text.length := by
      rcases known with absent | present
      · cases absent
      · exact Option.some.inj present
    have sized : builder.text.length < UInt64.size := by
      rw [length_text]
      exact Nat.lt_trans small (by decide)
    rw [same, UInt64.toNat_ofNat_of_lt' sized, length_text, encodedSize, Header.bodyLength,
      counted.inputs, counted.outputs, counted.stream, Nat.add_assoc, Nat.add_comm]
    rfl
  refine Circuit.read_of_accepted {
    sound := ⟨_, holds.sound small⟩
    cleared := rfl
    carried := ?_
    whole := ?_
    ended
    lengthAgrees := ?_
    granted }
  · rw [announced]
    exact holds.carried
  · rw [announced, text_circuit]
    exact served
  · rw [announced]
    exact agrees

/-- Loading undoes building. Whatever additions an empty builder accepts, the finished descriptor
loads in any environment that can provide the buffers, and gives back what was added. -/
theorem loading_undoes_building {layout : Layout} {memory : UInt64} {widths : Widths}
    {start : Builder} (started : ofLayout layout memory widths = .ok start)
    (added : start.addAll additions = (.ok (), builder))
    (small : builder.encodedSize < 1 <<< 60)
    (distinct : layout = .fixed → builder.inputs.size % UInt32.size ≠ Field.value Layout.magic) :
    ∃ bytes, builder.encode = .ok bytes ∧ bytes.length = builder.encodedSize ∧
      ∀ (lanes : Lanes) (reservation : Reservation) (length : Option UInt64) (source : ByteSource),
        source.contents = bytes → source.failure = none →
        (length = none ∨ length = some (UInt64.ofNat bytes.length)) →
        reservation.Grants builder.header lanes →
        ∃ circuit, Circuit.read lanes reservation length source = .ok circuit ∧
          circuit.header = builder.header ∧
          circuit.inputs = Addition.inputs additions ∧
          circuit.outputs = Addition.outputs additions ∧
          circuit.stream = builder.stream.toList ∧
          circuit.gates = (Addition.gates additions).map (fun gate => .ok gate.normalized) ∧
          circuit.ram = Ram.zeros lanes memory.toNat := by
  obtain ⟨nothing, sameLayout, sameMemory⟩ := holds_of_ofLayout started
  obtain ⟨holds, frame⟩ := nothing.of_addAll added
  rw [List.nil_append] at holds
  have layouts : builder.layout = layout := frame.layout.trans sameLayout
  have memories : builder.memory = memory := frame.memory.trans sameMemory
  refine ⟨builder.text, holds.encode, length_text builder, ?_⟩
  intro lanes reservation length source served ended known granted
  refine ⟨builder.circuit lanes, ?_, rfl, holds.inputsHeld, holds.outputsHeld, rfl, ?_, ?_⟩
  · refine holds.read_text small ?_ served ended known granted
    rw [layouts]
    exact distinct
  · rw [(holds.sound small).decoded, List.map_map]
    rfl
  · rw [circuit, memories]

/-- An inverter whose gate names a second source that it does not read. -/
theorem inverter_loads :
    ∃ start builder bytes circuit,
      ofLayout .fixed 2 Widths.fixed = .ok start ∧
        start.addAll [.input 0, .gate ⟨.not, 0, 7, 1⟩, .output 1] = (.ok (), builder) ∧
        builder.encode = .ok bytes ∧
        Circuit.read .eight Reservation.standard (some (UInt64.ofNat bytes.length))
          (ByteSource.ofBytes bytes) = .ok circuit ∧
        circuit.inputs = [0] ∧ circuit.outputs = [1] ∧
        circuit.gates = [.ok ⟨.not, 0, 0, 1⟩] ∧ circuit.ram = Ram.zeros .eight 2 := by
  obtain ⟨start, started⟩ : ∃ start, ofLayout .fixed 2 Widths.fixed = .ok start := ⟨_, rfl⟩
  obtain ⟨builder, added, inputs, small, granted⟩ :
      ∃ builder, start.addAll [.input 0, .gate ⟨.not, 0, 7, 1⟩, .output 1] = (.ok (), builder) ∧
        builder.inputs.size = 1 ∧ builder.encodedSize < 1 <<< 60 ∧
        Reservation.standard.Grants builder.header .eight := by
    obtain rfl := Except.ok.inj started
    exact ⟨_, rfl, rfl, by decide, ⟨by decide, by decide, by decide, by decide⟩⟩
  have distinct : Layout.fixed = .fixed →
      builder.inputs.size % UInt32.size ≠ Field.value Layout.magic := by
    rw [inputs]
    decide
  obtain ⟨bytes, encoded, -, loads⟩ := loading_undoes_building started added small distinct
  obtain ⟨circuit, loaded, -, wires, results, -, gates, cleared⟩ :=
    loads .eight Reservation.standard (some (UInt64.ofNat bytes.length)) (ByteSource.ofBytes bytes)
      (ByteSource.contents_ofBytes bytes) (ByteSource.failure_ofBytes bytes) (.inr rfl) granted
  exact ⟨start, builder, bytes, circuit, started, added, encoded, loaded, wires, results, gates,
    cleared⟩

end Builder

namespace Circuit

variable {lanes : Lanes} {reservation : Reservation} {length : Option UInt64}
  {source : ByteSource} {circuit : Circuit lanes}

/-- The gates of a sound circuit can be read off its stream. -/
theorem Sound.stream_eq {gates : List Gate} (sound : circuit.Sound gates) :
    circuit.stream = gates.flatMap (Gate.record circuit.header.widths) :=
  (GateStream.items_eq_map_ok_iff.mp sound.decoded).2

/-- A builder that holds the parts of a sound circuit has its text. -/
theorem Sound.text_eq {gates : List Gate} (sound : circuit.Sound gates) {builder : Builder}
    (holds : builder.Holds (Addition.parts circuit.inputs circuit.outputs gates))
    (widths : builder.widths = circuit.header.widths)
    (memory : builder.memory = circuit.header.memory) :
    builder.text = circuit.text builder.layout := by
  have inputs := holds.inputsHeld
  have outputs := holds.outputsHeld
  have stream := holds.streamHeld
  have gateCount := holds.gatesCounted
  rw [Addition.inputs_parts] at inputs
  rw [Addition.outputs_parts] at outputs
  rw [Addition.gates_parts] at gateCount
  rw [Addition.gates_parts, widths, ← sound.stream_eq] at stream
  have header : builder.header = circuit.header := by
    rw [Builder.header, ← Array.length_toList, ← Array.length_toList, ← Array.length_toList,
      inputs, outputs, stream, gateCount, sound.inputsCounted, sound.outputsCounted,
      sound.streamSized, sound.gatesCounted, widths, memory]
    simp only [UInt64.ofNat_toNat]
  rw [Builder.text, text, header, widths, inputs, outputs, stream]

/-- A sound circuit can be rebuilt in any layout that carries its widths. -/
theorem Sound.rebuild {gates : List Gate} (sound : circuit.Sound gates) {layout : Layout}
    (carried : circuit.header.Carried layout) :
    ∃ start last, Builder.ofLayout layout circuit.header.memory circuit.header.widths = .ok start ∧
      start.addAll (Addition.parts circuit.inputs circuit.outputs gates) = (.ok (), last) ∧
      last.encode = .ok (circuit.text layout) := by
  have addressable := (Header.check_eq_ok_iff.mp sound.checked).1
  have started := Builder.ofLayout_eq_ok addressable carried
  obtain ⟨nothing, sameLayout, sameMemory⟩ := Builder.holds_of_ofLayout started
  obtain ⟨last, added⟩ := nothing.addAll_accepts
    (Addition.inside_parts _ _ _ sound.inputsInside sound.outputsInside sound.gatesInside)
  obtain ⟨holds, frame⟩ := nothing.of_addAll added
  refine ⟨_, last, started, added, ?_⟩
  rw [holds.encode, sound.text_eq holds frame.widths frame.memory, frame.layout]

/-- Building undoes loading. Everything that loads names only cells of the memory, and is given
back byte by byte when its parts are added to an empty builder; so no two descriptors load to the
same parts. -/
theorem building_undoes_loading (loaded : read lanes reservation length source = .ok circuit) :
    (∀ address ∈ circuit.inputs ++ circuit.outputs, address < circuit.header.memory) ∧
      (∃ gates : List Gate, circuit.gates = gates.map .ok ∧
        gates.length = circuit.header.gateCount.toNat ∧
        (∀ gate ∈ gates, ∀ address ∈ gate.addresses, address < circuit.header.memory) ∧
        ∃ start last,
          Builder.ofLayout (Layout.announced source.contents) circuit.header.memory
            circuit.header.widths = .ok start ∧
          start.addAll (circuit.inputs.map .input ++ circuit.outputs.map .output ++
            gates.map .gate) = (.ok (), last) ∧
          last.encode = .ok source.contents) ∧
      ∀ (otherLanes : Lanes) (otherReservation : Reservation) (otherLength : Option UInt64)
        (otherSource : ByteSource) (other : Circuit otherLanes),
        read otherLanes otherReservation otherLength otherSource = .ok other →
        Layout.announced otherSource.contents = Layout.announced source.contents →
        other.header.widths = circuit.header.widths →
        other.header.memory = circuit.header.memory →
        other.inputs = circuit.inputs → other.outputs = circuit.outputs →
        other.gates = circuit.gates → otherSource.contents = source.contents := by
  have accepted := accepted_of_read loaded
  obtain ⟨gates, sound⟩ := accepted.sound
  refine ⟨?_, ⟨gates, sound.decoded, sound.gatesCounted, sound.gatesInside, ?_⟩, ?_⟩
  · intro address member
    rcases List.mem_append.mp member with input | output
    · exact sound.inputsInside address input
    · exact sound.outputsInside address output
  · obtain ⟨start, last, started, added, encoded⟩ := sound.rebuild accepted.carried
    refine ⟨start, last, started, added, ?_⟩
    rw [encoded, ← accepted.whole]
  · intro otherLanes otherReservation otherLength otherSource other otherLoaded sameLayout
      sameWidths sameMemory sameInputs sameOutputs sameGates
    have otherAccepted := accepted_of_read otherLoaded
    obtain ⟨otherGates, otherSound⟩ := otherAccepted.sound
    have same : otherGates = gates := by
      have mapped := otherSound.decoded.symm.trans (sameGates.trans sound.decoded)
      exact List.map_inj_right (fun _ _ => Except.ok.inj) |>.mp mapped
    subst same
    obtain ⟨start, last, started, added, encoded⟩ := sound.rebuild accepted.carried
    obtain ⟨otherStart, otherLast, otherStarted, otherAdded, otherEncoded⟩ :=
      otherSound.rebuild otherAccepted.carried
    -- The same parts lead through the same builders.
    rw [sameLayout, sameWidths, sameMemory, started] at otherStarted
    obtain rfl := Except.ok.inj otherStarted
    rw [sameInputs, sameOutputs, added] at otherAdded
    obtain rfl := (Prod.mk.inj otherAdded).2
    rw [encoded, ← accepted.whole, ← otherAccepted.whole] at otherEncoded
    exact (Except.ok.inj otherEncoded).symm

/-- The bytes of a circuit that inverts its only input, in the fixed layout. -/
def inverter : Bytes :=
  [1, 0, 0, 0, 0, 0, 0, 0] ++ [1, 0, 0, 0, 0, 0, 0, 0] ++ [1, 0, 0, 0, 0, 0, 0, 0] ++
    [5, 0, 0, 0, 0, 0, 0, 0] ++ [2, 0, 0, 0, 0, 0, 0, 0] ++ [0, 0] ++ [1, 0] ++ [4, 0, 0, 1, 0]

theorem read_inverter (lanes : Lanes) :
    read lanes Reservation.standard none (ByteSource.ofBytes inverter) =
      .ok ⟨⟨1, 1, 1, 5, 2, Widths.fixed⟩, [0], [1], [4, 0, 0, 1, 0], #[0, 0]⟩ := by
  cases lanes <;> cbv

/-- The inverter, loaded. -/
def inverterLoaded (lanes : Lanes) : Circuit lanes :=
  ⟨⟨1, 1, 1, 5, 2, Widths.fixed⟩, [0], [1], [4, 0, 0, 1, 0], #[0, 0]⟩

theorem sound_inverterLoaded (lanes : Lanes) :
    (inverterLoaded lanes).Sound [⟨.not, 0, 0, 1⟩] := by
  obtain ⟨gates, sound⟩ := (accepted_of_read (read_inverter lanes)).sound
  have known : (inverterLoaded lanes).gates = [⟨.not, 0, 0, 1⟩].map .ok := by cbv
  obtain rfl : gates = [⟨.not, 0, 0, 1⟩] :=
    (List.map_inj_right fun _ _ => Except.ok.inj).mp (sound.decoded.symm.trans known)
  exact sound

theorem inverter_is_given_back :
    ∃ (gates : List Gate) (start last : Builder), gates.length = 1 ∧
      Builder.ofLayout .fixed 2 Widths.fixed = .ok start ∧
      start.addAll ([.input 0] ++ [.output 1] ++ gates.map .gate) = (.ok (), last) ∧
      last.encode = .ok inverter := by
  obtain ⟨-, ⟨gates, -, counted, -, start, last, started, added, encoded⟩, -⟩ :=
    building_undoes_loading (read_inverter .eight)
  rw [ByteSource.contents_ofBytes] at started encoded
  exact ⟨gates, start, last, counted, started, added, encoded⟩

end Circuit

end Bitslice
