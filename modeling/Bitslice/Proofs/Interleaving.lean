import Bitslice.Proofs.Canonical

/-!
# Interleaved additions

`Builder.attempt` offers additions to a builder one after the other and goes on
after a refusal. An encoder keeps what it wrote before a field that does not
fit, so a refused gate could leave half a record behind; it does not, because
an address inside the memory always fits its field (`Builder.Holds.add_eq`). A
builder is therefore determined by the three tables of what it accepted
(`Builder.Holds.eq_of_tables`), in whatever order they were filled.
-/

namespace Bitslice

namespace Gate

/-- The sum of the sizes of the records of these gates. -/
def recordSizes (widths : Widths) : List Gate → Nat
  | [] => 0
  | gate :: later => gate.recordSize widths + recordSizes widths later

theorem length_records (widths : Widths) (gates : List Gate) :
    (gates.flatMap (record widths)).length = recordSizes widths gates := by
  induction gates with
  | nil => rfl
  | cons gate later ih =>
    rw [List.flatMap_cons, List.length_append, length_record, ih, recordSizes]

end Gate

namespace Addition

/-- The addresses that an addition names, under the names that a refusal reports. -/
def named : Addition → List (String × UInt64)
  | input address => [("input", address)]
  | output address => [("output", address)]
  | gate added => ["in1", "in2"].zip added.sources ++ [("out", added.destination)]

/-- The addition names cells of the memory only. -/
def inside (memory : UInt64) (addition : Addition) : Bool :=
  addition.addresses.all (· < memory)

variable {memory : UInt64} {addition : Addition}

theorem inside_iff : addition.inside memory ↔ ∀ address ∈ addition.addresses, address < memory := by
  simp [inside]

theorem checkAddresses_named :
    Gate.checkAddresses memory addition.named = .ok () ↔
      ∀ address ∈ addition.addresses, address < memory := by
  cases addition with
  | input address => simp [Gate.checkAddresses_eq_ok_iff, named, addresses]
  | output address => simp [Gate.checkAddresses_eq_ok_iff, named, addresses]
  | gate added => exact Gate.check_eq_ok_iff

end Addition

namespace Builder

/-- Offers additions in order and goes on after a refusal. The accepted ones are listed. -/
def attempt (builder : Builder) : List Addition → List Addition × Builder
  | [] => ([], builder)
  | addition :: later =>
    match builder.add addition with
    | (.error _, builder) => attempt builder later
    | (.ok (), builder) =>
      let (accepted, last) := attempt builder later
      (addition :: accepted, last)

section Attempting

variable {builder other : Builder} {additions others : List Addition}

/-- All that an addition can do: one that names cells of the memory only is accepted, and any
other is refused for the first cell outside and leaves the builder as it was. -/
theorem Holds.add_eq (holds : builder.Holds additions) (addition : Addition) :
    (addition.inside builder.memory = true ∧
        Gate.checkAddresses builder.memory addition.named = .ok () ∧
        ∃ next, builder.add addition = (.ok (), next)) ∨
      (addition.inside builder.memory = false ∧
        ∃ cause, Gate.checkAddresses builder.memory addition.named = .error cause ∧
          builder.add addition = (.error cause, builder)) := by
  cases checked : Gate.checkAddresses builder.memory addition.named with
  | ok =>
    have inside := Addition.checkAddresses_named.mp checked
    exact .inl ⟨Addition.inside_iff.mpr inside, rfl, holds.add_accepts inside⟩
  | error cause =>
    refine .inr ⟨?_, cause, rfl, ?_⟩
    · rw [Bool.eq_false_iff, ne_eq, Addition.inside_iff, ← Addition.checkAddresses_named, checked]
      exact nofun
    · cases addition with
      | input address =>
        have refused : builder.addInput address = .error cause := by
          rw [addInput,
            show Gate.checkAddresses builder.memory [("input", address)] = _ from checked]
          rfl
        simp only [add, refused]
      | output address =>
        have refused : builder.addOutput address = .error cause := by
          rw [addOutput,
            show Gate.checkAddresses builder.memory [("output", address)] = _ from checked]
          rfl
        simp only [add, refused]
      | gate added =>
        have refused : added.check builder.memory = .error cause := checked
        simp only [add, addGate, refused]

/-- Refused additions may as well not have been offered, and which ones are refused depends on
the memory alone. -/
theorem Holds.attempt_eq (holds : builder.Holds additions) (attempts : List Addition) :
    (builder.attempt attempts).1 = attempts.filter (Addition.inside builder.memory) ∧
      builder.addAll (builder.attempt attempts).1 = (.ok (), (builder.attempt attempts).2) := by
  induction attempts generalizing builder additions with
  | nil => exact ⟨rfl, rfl⟩
  | cons addition later ih =>
    rcases holds.add_eq addition with ⟨inside, -, next, added⟩ | ⟨outside, cause, -, added⟩
    · obtain ⟨held, frame⟩ := holds.of_add added
      obtain ⟨selected, rest⟩ := ih held
      rw [frame.memory] at selected
      constructor
      · simp only [attempt, added, List.filter_cons, inside, if_true, selected]
      · simp only [attempt, added, addAll]
        exact rest
    · obtain ⟨selected, rest⟩ := ih holds
      constructor
      · rw [List.filter_cons, if_neg (by simp [outside]), ← selected, attempt, added]
      · simpa only [attempt, added] using rest

/-- A builder is determined by its layout, its memory and the three tables of what it holds. -/
theorem Holds.eq_of_tables (holds : builder.Holds additions) (held : other.Holds others)
    (frame : SameFrame builder other)
    (inputs : Addition.inputs others = Addition.inputs additions)
    (outputs : Addition.outputs others = Addition.outputs additions)
    (gates : (Addition.gates others).map Gate.normalized =
      (Addition.gates additions).map Gate.normalized) : other = builder := by
  have sameInputs : other.inputs = builder.inputs := by
    rw [← Array.toList_inj, held.inputsHeld, holds.inputsHeld, inputs]
  have sameOutputs : other.outputs = builder.outputs := by
    rw [← Array.toList_inj, held.outputsHeld, holds.outputsHeld, outputs]
  have sameStream : other.stream = builder.stream := by
    have records := congrArg (List.flatMap (Gate.record builder.widths)) gates
    simp only [List.flatMap_map, Gate.record_normalized] at records
    rw [← Array.toList_inj, held.streamHeld, holds.streamHeld, frame.widths, records]
  have sameCount : other.gateCount = builder.gateCount := by
    have lengths := congrArg List.length gates
    rw [held.gatesCounted, holds.gatesCounted]
    simpa only [List.length_map] using lengths
  obtain ⟨layout, widths, memory⟩ := frame
  cases builder
  cases other
  simp_all only

theorem Holds.stream_size (holds : builder.Holds additions) :
    builder.stream.size = Gate.recordSizes builder.widths (Addition.gates additions) := by
  rw [← Array.length_toList, holds.streamHeld, Gate.length_records]

/-- A finished descriptor below `2 ^ 60` bytes is as long as its header says. -/
theorem Holds.bodySize (holds : builder.Holds additions) (small : builder.encodedSize < 1 <<< 60) :
    ∃ body, builder.header.bodySize = .ok body ∧
      builder.text.length = builder.layout.headerSize + body.toNat := by
  obtain ⟨inputs, outputs, -, stream⟩ := holds.counted small
  have bounded := (Header.check_eq_ok_iff.mp (holds.header_check small)).2.2.2.2
  refine ⟨UInt64.ofNat builder.header.bodyLength,
    Header.checkedSize_eq_ok_iff.mpr ⟨bounded, rfl⟩, ?_⟩
  rw [UInt64.toNat_ofNat_of_lt' bounded, length_text, encodedSize, Header.bodyLength, inputs,
    outputs, stream, Nat.add_assoc]
  rfl

/-- Whatever is offered to an empty builder, in whatever order: each further addition is accepted
exactly when it names cells of the memory only and otherwise changes nothing, the stream is read
back as the accepted gates and counted right, a descriptor below `2 ^ 60` bytes can be finished,
and it depends on the accepted inputs, outputs and gates only. -/
theorem attempt_spec {layout : Layout} {memory : UInt64} {widths : Widths} {start : Builder}
    (started : ofLayout layout memory widths = .ok start) {attempts accepted : List Addition}
    (attempted : start.attempt attempts = (accepted, builder)) :
    accepted = attempts.filter (Addition.inside memory) ∧
      (∀ addition,
        (builder.add addition).1 = Gate.checkAddresses memory addition.named ∧
          (addition.inside memory = false →
            (builder.add addition).1 ≠ .ok () ∧ (builder.add addition).2 = builder)) ∧
      GateStream.items builder.widths builder.stream.toList =
        (Addition.gates accepted).map (fun gate => .ok gate.normalized) ∧
      builder.gateCount = (Addition.gates accepted).length ∧
      builder.stream.size = Gate.recordSizes builder.widths (Addition.gates accepted) ∧
      (builder.encodedSize < 1 <<< 60 →
        builder.Counted ∧ builder.header.check = .ok () ∧
          ∃ bytes body, builder.encode = .ok bytes ∧ bytes.length = builder.encodedSize ∧
            builder.header.bodySize = .ok body ∧
            bytes.length = layout.headerSize + body.toNat) ∧
      ∀ (others otherAccepted : List Addition) (other : Builder),
        start.attempt others = (otherAccepted, other) →
        Addition.inputs otherAccepted = Addition.inputs accepted →
        Addition.outputs otherAccepted = Addition.outputs accepted →
        (Addition.gates otherAccepted).map Gate.normalized =
          (Addition.gates accepted).map Gate.normalized →
        other = builder ∧ other.encode = builder.encode := by
  obtain ⟨nothing, sameLayout, sameMemory⟩ := holds_of_ofLayout started
  -- Any list of attempts ends in a builder that holds what was accepted.
  have reached : ∀ {attempts accepted last}, start.attempt attempts = (accepted, last) →
      accepted = attempts.filter (Addition.inside memory) ∧ last.Holds accepted ∧
        SameFrame start last := by
    intro attempts accepted last attempted
    obtain ⟨selected, added⟩ := nothing.attempt_eq attempts
    rw [attempted, sameMemory] at selected
    rw [attempted] at added
    exact ⟨selected, nothing.of_addAll added⟩
  obtain ⟨selected, holds, frame⟩ := reached attempted
  have memories := frame.memory.trans sameMemory
  refine ⟨selected, ?_, ?_, holds.gatesCounted, holds.stream_size, ?_, ?_⟩
  · intro addition
    rcases holds.add_eq addition with ⟨inside, checked, next, added⟩ | ⟨-, cause, checked, added⟩
    · rw [memories] at inside checked
      rw [added, checked, inside]
      exact ⟨rfl, nofun⟩
    · rw [memories] at checked
      rw [added, checked]
      exact ⟨rfl, fun _ => ⟨nofun, rfl⟩⟩
  · rw [holds.decoded, List.map_map]
    rfl
  · intro small
    obtain ⟨body, sized, length⟩ := holds.bodySize small
    rw [frame.layout, sameLayout] at length
    exact ⟨holds.counted small, holds.header_check small, builder.text, body, holds.encode,
      length_text builder, sized, length⟩
  · intro others otherAccepted other otherAttempted inputs outputs gates
    obtain ⟨-, otherHolds, otherFrame⟩ := reached otherAttempted
    have same : other = builder := by
      refine holds.eq_of_tables otherHolds ?_ inputs outputs gates
      exact ⟨otherFrame.layout.trans frame.layout.symm, otherFrame.widths.trans frame.widths.symm,
        otherFrame.memory.trans frame.memory.symm⟩
    exact ⟨same, by rw [same]⟩

/-- An inverter built in two orders, with refused additions in between and different numbers in
the operand that its gate does not read. -/
theorem inverter_attempted_twice :
    ∃ start accepted builder otherAccepted other,
      ofLayout .fixed 2 Widths.fixed = .ok start ∧
        start.attempt [.input 0, .gate ⟨.xor, 0, 2, 1⟩, .gate ⟨.not, 0, 7, 1⟩, .output 1] =
          (accepted, builder) ∧
        start.attempt [.output 1, .input 9, .gate ⟨.not, 0, 5, 1⟩, .output 2, .input 0] =
          (otherAccepted, other) ∧
        accepted.length = 3 ∧
        (builder.add (.gate ⟨.and, 3, 2, 9⟩)).1 = .error (.addressOutOfRange "in1" 3 2) ∧
        GateStream.items builder.widths builder.stream.toList = [.ok ⟨.not, 0, 0, 1⟩] ∧
        (∃ bytes, builder.encode = .ok bytes ∧ bytes.length = builder.encodedSize) ∧
        other = builder := by
  obtain ⟨start, started⟩ : ∃ start, ofLayout .fixed 2 Widths.fixed = .ok start := ⟨_, rfl⟩
  obtain ⟨accepted, builder, attempted, gates, counted, inputs, outputs, small⟩ :
      ∃ accepted builder,
        start.attempt [.input 0, .gate ⟨.xor, 0, 2, 1⟩, .gate ⟨.not, 0, 7, 1⟩, .output 1] =
            (accepted, builder) ∧
          Addition.gates accepted = [⟨.not, 0, 7, 1⟩] ∧ accepted.length = 3 ∧
          Addition.inputs accepted = [0] ∧ Addition.outputs accepted = [1] ∧
          builder.encodedSize < 1 <<< 60 := by
    obtain rfl := Except.ok.inj started
    exact ⟨_, _, rfl, rfl, rfl, rfl, rfl, by decide⟩
  obtain ⟨otherAccepted, other, otherAttempted, otherGates, otherInputs, otherOutputs⟩ :
      ∃ otherAccepted other,
        start.attempt [.output 1, .input 9, .gate ⟨.not, 0, 5, 1⟩, .output 2, .input 0] =
            (otherAccepted, other) ∧
          Addition.gates otherAccepted = [⟨.not, 0, 5, 1⟩] ∧
          Addition.inputs otherAccepted = [0] ∧ Addition.outputs otherAccepted = [1] := by
    obtain rfl := Except.ok.inj started
    exact ⟨_, _, rfl, rfl, rfl, rfl⟩
  obtain ⟨-, answers, decoded, -, -, finished, determined⟩ := attempt_spec started attempted
  obtain ⟨-, -, bytes, -, encoded, sized, -⟩ := finished small
  refine ⟨start, accepted, builder, otherAccepted, other, started, attempted, otherAttempted,
    counted, (answers _).1, ?_, ⟨bytes, encoded, sized⟩, ?_⟩
  · rw [decoded, gates]
    rfl
  · refine (determined _ _ _ otherAttempted ?_ ?_ ?_).1
    · rw [otherInputs, inputs]
    · rw [otherOutputs, outputs]
    · rw [otherGates, gates]
      rfl

end Attempting

end Builder

end Bitslice
