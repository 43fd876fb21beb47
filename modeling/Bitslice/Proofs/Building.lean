import Bitslice.Descriptor.Builder
import Bitslice.Proofs.Headers
import Bitslice.Proofs.Records

/-!
# What a builder holds

`Builder.Holds` relates a builder to the additions it has accepted.
`Builder.Holds.of_addAll` carries the relation through any sequence of accepted
additions, and `Builder.Holds.encode` says which bytes come out.
-/

namespace Bitslice

/-- One addition to a descriptor. -/
inductive Addition where
  | input (address : UInt64)
  | output (address : UInt64)
  | gate (added : Gate)

namespace Addition

/-- The addresses that an addition names. -/
def addresses : Addition → List UInt64
  | input address => [address]
  | output address => [address]
  | gate added => added.addresses

/-- The input wire that an addition adds, if it adds one. -/
def input? : Addition → Option UInt64
  | input address => some address
  | _ => none

/-- The output wire that an addition adds, if it adds one. -/
def output? : Addition → Option UInt64
  | output address => some address
  | _ => none

/-- The gate that an addition adds, if it adds one. -/
def gate? : Addition → Option Gate
  | gate added => some added
  | _ => none

/-- The input wires among some additions, in order. -/
def inputs (additions : List Addition) : List UInt64 :=
  additions.filterMap input?

/-- The output wires among some additions, in order. -/
def outputs (additions : List Addition) : List UInt64 :=
  additions.filterMap output?

/-- The gates among some additions, in order. -/
def gates (additions : List Addition) : List Gate :=
  additions.filterMap gate?

variable {additions : List Addition}

/-- What is picked out of some additions has been added. -/
theorem mem_filterMap {α : Type} {pick : Addition → Option α} {wrap : α → Addition}
    (inverse : ∀ addition value, pick addition = some value ↔ addition = wrap value) {value : α} :
    value ∈ additions.filterMap pick ↔ wrap value ∈ additions := by
  rw [List.mem_filterMap]
  constructor
  · rintro ⟨addition, member, found⟩
    rwa [← (inverse addition value).mp found]
  · intro member
    exact ⟨wrap value, member, (inverse _ _).mpr rfl⟩

theorem mem_inputs {address : UInt64} : address ∈ inputs additions ↔ input address ∈ additions := by
  apply mem_filterMap
  intro addition value
  cases addition <;> simp [input?]

theorem mem_outputs {address : UInt64} :
    address ∈ outputs additions ↔ output address ∈ additions := by
  apply mem_filterMap
  intro addition value
  cases addition <;> simp [output?]

theorem mem_gates {added : Gate} : added ∈ gates additions ↔ gate added ∈ additions := by
  apply mem_filterMap
  intro addition value
  cases addition <;> simp [gate?]

/-- Two tables and the gates of a stream, one part after the other. -/
def parts (inputs outputs : List UInt64) (gates : List Gate) : List Addition :=
  inputs.map input ++ outputs.map output ++ gates.map gate

section Parts

variable (wires results : List UInt64) (added : List Gate)

@[simp] theorem inputs_parts : inputs (parts wires results added) = wires := by
  simp [inputs, parts, List.filterMap_append, List.filterMap_map, Function.comp_def, input?]

@[simp] theorem outputs_parts : outputs (parts wires results added) = results := by
  simp [outputs, parts, List.filterMap_append, List.filterMap_map, Function.comp_def, output?,
    List.filterMap_eq_nil_iff.mpr]

@[simp] theorem gates_parts : gates (parts wires results added) = added := by
  simp [gates, parts, List.filterMap_append, List.filterMap_map, Function.comp_def, gate?,
    List.filterMap_eq_nil_iff.mpr]

/-- All addresses of the parts satisfy what those of each part do. -/
theorem inside_parts {memory : UInt64} (wiresInside : ∀ address ∈ wires, address < memory)
    (resultsInside : ∀ address ∈ results, address < memory)
    (gatesInside : ∀ gate ∈ added, ∀ address ∈ gate.addresses, address < memory) :
    ∀ addition ∈ parts wires results added, ∀ address ∈ addition.addresses, address < memory := by
  intro addition member address used
  rcases List.mem_append.mp member with tables | record
  · rcases List.mem_append.mp tables with wire | result
    · obtain ⟨entry, listed, rfl⟩ := List.mem_map.mp wire
      rw [List.mem_singleton.mp used]
      exact wiresInside entry listed
    · obtain ⟨entry, listed, rfl⟩ := List.mem_map.mp result
      rw [List.mem_singleton.mp used]
      exact resultsInside entry listed
  · obtain ⟨gate, listed, rfl⟩ := List.mem_map.mp record
    exact gatesInside gate listed address used

end Parts

end Addition

namespace Builder

/-- An empty descriptor in a layout; the fixed layout has its own widths. -/
def ofLayout (layout : Layout) (memory : UInt64) (widths : Widths) : Except Malformed Builder :=
  match layout with
  | .fixed => fixed memory
  | .selfDescribing => selfDescribing memory widths

/-- Makes one addition. The builder is returned also when it refuses. -/
def add (builder : Builder) : Addition → Except Malformed Unit × Builder
  | .input address =>
    match builder.addInput address with
    | .error cause => (.error cause, builder)
    | .ok builder => (.ok (), builder)
  | .output address =>
    match builder.addOutput address with
    | .error cause => (.error cause, builder)
    | .ok builder => (.ok (), builder)
  | .gate added => builder.addGate added

/-- Makes additions in order, up to the first that is refused. -/
def addAll (builder : Builder) : List Addition → Except Malformed Unit × Builder
  | [] => (.ok (), builder)
  | addition :: later =>
    match builder.add addition with
    | (.error cause, builder) => (.error cause, builder)
    | (.ok (), builder) => addAll builder later

/-- The builder has accepted exactly these additions. -/
structure Holds (builder : Builder) (additions : List Addition) : Prop where
  addressable : builder.memory.toNat ≤ Field.capacity builder.widths.address
  carried : builder.layout = .fixed → builder.widths = Widths.fixed
  inputsHeld : builder.inputs.toList = Addition.inputs additions
  outputsHeld : builder.outputs.toList = Addition.outputs additions
  streamHeld : builder.stream.toList =
    (Addition.gates additions).flatMap (Gate.record builder.widths)
  gatesCounted : builder.gateCount = (Addition.gates additions).length
  inside : ∀ addition ∈ additions, ∀ address ∈ addition.addresses, address < builder.memory

/-- What an addition never changes. -/
structure SameFrame (earlier later : Builder) : Prop where
  layout : later.layout = earlier.layout
  widths : later.widths = earlier.widths
  memory : later.memory = earlier.memory

theorem SameFrame.trans {first second third : Builder} (before : SameFrame first second)
    (after : SameFrame second third) : SameFrame first third :=
  ⟨after.layout.trans before.layout, after.widths.trans before.widths,
    after.memory.trans before.memory⟩

theorem holds_of_ofLayout {layout : Layout} {memory : UInt64} {widths : Widths} {start : Builder}
    (started : ofLayout layout memory widths = .ok start) :
    start.Holds [] ∧ start.layout = layout ∧ start.memory = memory := by
  cases layout with
  | fixed =>
    obtain ⟨addressable, same⟩ := check_bind_eq_ok_iff.mp started
    obtain rfl := Except.ok.inj same
    have fits := Widths.checkAddressing_eq_ok_iff.mp addressable
    exact ⟨⟨fits, fun _ => rfl, rfl, rfl, rfl, rfl, by simp⟩, rfl, rfl⟩
  | selfDescribing =>
    obtain ⟨addressable, same⟩ := check_bind_eq_ok_iff.mp started
    obtain rfl := Except.ok.inj same
    have fits := Widths.checkAddressing_eq_ok_iff.mp addressable
    exact ⟨⟨fits, nofun, rfl, rfl, rfl, rfl, by simp⟩, rfl, rfl⟩

theorem ofLayout_eq_ok {layout : Layout} {memory : UInt64} {widths : Widths}
    (addressable : memory.toNat ≤ Field.capacity widths.address)
    (carried : layout = .fixed → widths = Widths.fixed) :
    ofLayout layout memory widths = .ok ⟨layout, widths, memory, #[], #[], #[], 0⟩ := by
  have accepted := Widths.checkAddressing_eq_ok_iff.mpr addressable
  cases layout with
  | fixed =>
    obtain rfl := carried rfl
    exact check_bind_eq_ok_iff.mpr ⟨accepted, rfl⟩
  | selfDescribing => exact check_bind_eq_ok_iff.mpr ⟨accepted, rfl⟩

section Adding

variable {builder next last : Builder} {additions : List Addition}

theorem addInput_eq_ok_iff {address : UInt64} : builder.addInput address = .ok next ↔
    address < builder.memory ∧ { builder with inputs := builder.inputs.push address } = next := by
  rw [addInput, check_bind_eq_ok_iff, Gate.checkAddresses_eq_ok_iff]
  simp

theorem addOutput_eq_ok_iff {address : UInt64} : builder.addOutput address = .ok next ↔
    address < builder.memory ∧ { builder with outputs := builder.outputs.push address } = next := by
  rw [addOutput, check_bind_eq_ok_iff, Gate.checkAddresses_eq_ok_iff]
  simp

/-- A gate inside the memory always has room in the fields of its record, so it is accepted
exactly when it is inside. -/
theorem addGate_eq_ok_iff
    (addressable : builder.memory.toNat ≤ Field.capacity builder.widths.address)
    {added : Gate} : builder.addGate added = (.ok (), next) ↔
      (∀ address ∈ added.addresses, address < builder.memory) ∧
        { builder with
          stream := builder.stream ++ Gate.record builder.widths added
          gateCount := builder.gateCount + 1 } = next := by
  by_cases inside : ∀ address ∈ added.addresses, address < builder.memory
  · have fits : added.Fits builder.widths :=
      fun address member => Nat.lt_of_lt_of_le (inside address member) addressable
    have checked := Gate.check_eq_ok_iff.mpr inside
    have encoded := Gate.encode_eq_ok_iff.mpr ⟨fits, rfl⟩
    simp only [addGate, checked, encoded, Prod.mk.injEq, true_and]
    exact (and_iff_right inside).symm
  · constructor
    · intro accepted
      unfold addGate at accepted
      split at accepted
      · simp at accepted
      · next checked => exact absurd (Gate.check_eq_ok_iff.mp checked) inside
    · intro accepted
      exact absurd accepted.1 inside

/-- An accepted addition is held behind the earlier ones. -/
theorem Holds.of_add (holds : builder.Holds additions) {addition : Addition}
    (added : builder.add addition = (.ok (), next)) :
    next.Holds (additions ++ [addition]) ∧ SameFrame builder next := by
  obtain ⟨addressable, carried, inputsHeld, outputsHeld, streamHeld, gatesCounted, inside⟩ := holds
  have extended : (∀ address ∈ addition.addresses, address < builder.memory) →
      ∀ other ∈ additions ++ [addition], ∀ address ∈ other.addresses, address < builder.memory := by
    intro here other member
    rcases List.mem_append.mp member with before | last
    · exact inside other before
    · rw [List.mem_singleton.mp last]
      exact here
  cases addition with
  | input address =>
    simp only [add] at added
    split at added
    · simp at added
    · next accepted =>
      obtain rfl := (Prod.mk.inj added).2
      obtain ⟨here, rfl⟩ := addInput_eq_ok_iff.mp accepted
      refine ⟨⟨addressable, carried, ?_, ?_, ?_, ?_, extended ?_⟩, rfl, rfl, rfl⟩
      · simp [inputsHeld, Addition.inputs, Addition.input?, List.filterMap_append]
      · simp [outputsHeld, Addition.outputs, Addition.output?, List.filterMap_append]
      · simp [streamHeld, Addition.gates, Addition.gate?, List.filterMap_append]
      · simp [gatesCounted, Addition.gates, Addition.gate?, List.filterMap_append]
      · simpa [Addition.addresses] using here
  | output address =>
    simp only [add] at added
    split at added
    · simp at added
    · next accepted =>
      obtain rfl := (Prod.mk.inj added).2
      obtain ⟨here, rfl⟩ := addOutput_eq_ok_iff.mp accepted
      refine ⟨⟨addressable, carried, ?_, ?_, ?_, ?_, extended ?_⟩, rfl, rfl, rfl⟩
      · simp [inputsHeld, Addition.inputs, Addition.input?, List.filterMap_append]
      · simp [outputsHeld, Addition.outputs, Addition.output?, List.filterMap_append]
      · simp [streamHeld, Addition.gates, Addition.gate?, List.filterMap_append]
      · simp [gatesCounted, Addition.gates, Addition.gate?, List.filterMap_append]
      · simpa [Addition.addresses] using here
  | gate gate =>
    obtain ⟨here, rfl⟩ := (addGate_eq_ok_iff addressable).mp added
    refine ⟨⟨addressable, carried, ?_, ?_, ?_, ?_, extended here⟩, rfl, rfl, rfl⟩
    · simp [inputsHeld, Addition.inputs, Addition.input?, List.filterMap_append]
    · simp [outputsHeld, Addition.outputs, Addition.output?, List.filterMap_append]
    · simp [streamHeld, Addition.gates, Addition.gate?, List.filterMap_append]
    · simp [gatesCounted, Addition.gates, Addition.gate?, List.filterMap_append]

/-- What a sequence of accepted additions leaves behind. -/
theorem Holds.of_addAll (holds : builder.Holds additions) {later : List Addition}
    (added : builder.addAll later = (.ok (), last)) :
    last.Holds (additions ++ later) ∧ SameFrame builder last := by
  induction later generalizing builder additions with
  | nil =>
    obtain rfl := (Prod.mk.inj added).2
    exact ⟨by simpa using holds, rfl, rfl, rfl⟩
  | cons addition later ih =>
    simp only [addAll] at added
    split at added
    · simp at added
    · next next accepted =>
      obtain ⟨held, first⟩ := holds.of_add accepted
      obtain ⟨heldLast, others⟩ := ih held added
      refine ⟨?_, first.trans others⟩
      rwa [List.append_assoc] at heldLast

/-- An addition inside the memory is accepted. -/
theorem Holds.add_accepts (holds : builder.Holds additions) {addition : Addition}
    (inside : ∀ address ∈ addition.addresses, address < builder.memory) :
    ∃ next, builder.add addition = (.ok (), next) := by
  cases addition with
  | input address =>
    have accepted := addInput_eq_ok_iff.mpr ⟨inside address (.head _), rfl⟩
    exact ⟨{ builder with inputs := builder.inputs.push address }, by simp only [add, accepted]⟩
  | output address =>
    have accepted := addOutput_eq_ok_iff.mpr ⟨inside address (.head _), rfl⟩
    exact ⟨{ builder with outputs := builder.outputs.push address }, by simp only [add, accepted]⟩
  | gate gate => exact ⟨_, (addGate_eq_ok_iff holds.addressable).mpr ⟨inside, rfl⟩⟩

/-- Additions inside the memory are accepted one after the other. -/
theorem Holds.addAll_accepts (holds : builder.Holds additions) {later : List Addition}
    (inside : ∀ addition ∈ later, ∀ address ∈ addition.addresses, address < builder.memory) :
    ∃ last, builder.addAll later = (.ok (), last) := by
  induction later generalizing builder additions with
  | nil => exact ⟨builder, rfl⟩
  | cons addition later ih =>
    obtain ⟨next, accepted⟩ := holds.add_accepts (inside addition (.head _))
    obtain ⟨held, frame⟩ := holds.of_add accepted
    obtain ⟨last, others⟩ := ih held fun other member => by
      rw [frame.memory]
      exact inside other (.tail _ member)
    exact ⟨last, by rw [addAll, accepted]; exact others⟩

end Adding

/-- The bytes of a finished descriptor: header, both tables, stream. -/
def text (builder : Builder) : Bytes :=
  builder.header.text builder.layout ++
    (Field.allDigits builder.widths.address builder.inputs.toList ++
      (Field.allDigits builder.widths.address builder.outputs.toList ++ builder.stream.toList))

/-- The number of bytes of a finished descriptor. -/
def encodedSize (builder : Builder) : Nat :=
  builder.layout.headerSize + (builder.inputs.size + builder.outputs.size) * builder.widths.address
    + builder.stream.size

@[simp] theorem length_text (builder : Builder) : builder.text.length = builder.encodedSize := by
  simp only [text, encodedSize, List.length_append, Header.length_text, Field.length_allDigits,
    Array.length_toList, Nat.add_mul]
  omega

/-- Everything a builder holds can be encoded. -/
theorem Holds.encode {builder : Builder} {additions : List Addition}
    (holds : builder.Holds additions) : builder.encode = .ok builder.text := by
  have headerEncoded : builder.header.encode builder.layout =
      .ok (builder.header.text builder.layout) :=
    Header.encode_eq_ok_iff.mpr ⟨holds.carried, rfl⟩
  have fit : ∀ address ∈ builder.inputs.toList ++ builder.outputs.toList,
      address.toNat < Field.capacity builder.widths.address := by
    intro address member
    refine Nat.lt_of_lt_of_le ?_ holds.addressable
    rcases List.mem_append.mp member with input | output
    · rw [holds.inputsHeld] at input
      exact holds.inside _ (Addition.mem_inputs.mp input) address (.head _)
    · rw [holds.outputsHeld] at output
      exact holds.inside _ (Addition.mem_outputs.mp output) address (.head _)
  have tables := Encoding.ofFields_eq_ok_iff.mpr ⟨fit, rfl⟩
  refine bind_eq_ok_iff.mpr ⟨_, headerEncoded, ?_⟩
  simp only [tables]
  refine check_bind_eq_ok_iff.mpr ⟨rfl, ?_⟩
  simp [text]

end Builder

end Bitslice
