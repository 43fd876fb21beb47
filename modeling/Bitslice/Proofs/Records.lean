import Bitslice.Gate.Stream
import Bitslice.Proofs.Fields

/-!
# The record language

`Gate.record` is the text of a gate. Decoding accepts exactly such a text with
something behind it (`Gate.decode_eq_ok_iff`), so a stream without a bad record
is the concatenation of its gates' records and of no others
(`GateStream.items_eq_map_ok_iff`).
-/

namespace Bitslice

namespace Operator

theorem tag_lt (operator : Operator) : operator.tag.toNat < 256 := by
  cases operator <;> decide

/-- A tag stands for one operator only. -/
theorem ofTag?_eq_some_iff {tag : UInt64} {operator : Operator} :
    ofTag? tag = some operator ↔ tag = operator.tag := by
  constructor
  · intro known
    unfold ofTag? at known
    split at known
    case h_6 => cases known
    all_goals
      next same =>
        cases known
        exact UInt64.toNat_inj.mp same
  · rintro rfl
    exact ofTag?_tag operator

end Operator

namespace Encoding

/-- Fields are written without a failure exactly when every number fits, and then one after the
other. -/
theorem ofFields_eq_ok_iff {width : Nat} {numbers : List UInt64} {written : Bytes} :
    ofFields width numbers = ⟨written, .ok ()⟩ ↔
      (∀ number ∈ numbers, number.toNat < Field.capacity width) ∧
        written = Field.allDigits width numbers := by
  induction numbers generalizing written with
  | nil => simp [ofFields, eq_comm]
  | cons number numbers ih =>
    constructor
    · intro encoded
      unfold ofFields at encoded
      split at encoded
      · simp at encoded
      · next bytes first =>
        obtain ⟨fits, rfl⟩ := Field.encode_eq_ok_iff.mp first
        obtain ⟨rfl, finished⟩ := Encoding.mk.inj encoded
        have others : ofFields width numbers =
            ⟨(ofFields width numbers).written, .ok ()⟩ := by rw [← finished]
        obtain ⟨fit, same⟩ := ih.mp others
        refine ⟨?_, by rw [same, Field.allDigits_cons]⟩
        rintro other (_ | ⟨_, member⟩)
        · exact fits
        · exact fit other member
    · rintro ⟨fit, rfl⟩
      have first : Field.encode width number = .ok (Field.digits width number.toNat) :=
        Field.encode_eq_ok_iff.mpr ⟨fit number (.head _), rfl⟩
      have others : ofFields width numbers = ⟨Field.allDigits width numbers, .ok ()⟩ :=
        ih.mpr ⟨fun other member => fit other (.tail _ member), rfl⟩
      simp only [ofFields, first, others, Field.allDigits_cons]

end Encoding

namespace Gate

/-- The addresses a gate uses: its sources in order, then its destination. -/
def addresses (gate : Gate) : List UInt64 :=
  gate.sources ++ [gate.destination]

/-- Every address the gate uses has room in its field. -/
def Fits (gate : Gate) (widths : Widths) : Prop :=
  ∀ address ∈ gate.addresses, address.toNat < Field.capacity widths.address

/-- The text of a gate. -/
def record (widths : Widths) (gate : Gate) : Bytes :=
  Field.digits widths.opcode gate.operator.tag.toNat ++
    Field.allDigits widths.address gate.addresses

section Addresses

variable (gate : Gate)

@[simp] theorem length_addresses : gate.addresses.length = gate.operator.arity + 1 := by
  obtain ⟨operator, _, _, _⟩ := gate
  cases operator <;> rfl

@[simp] theorem operator_normalized : gate.normalized.operator = gate.operator := by
  unfold normalized
  split <;> rfl

@[simp] theorem addresses_normalized : gate.normalized.addresses = gate.addresses := by
  obtain ⟨operator, _, _, _⟩ := gate
  cases operator <;> rfl

@[simp] theorem normalized_normalized : gate.normalized.normalized = gate.normalized := by
  obtain ⟨operator, _, _, _⟩ := gate
  cases operator <;> rfl

/-- The addresses used determine a gate up to the operands it does not read. -/
theorem ofAddresses_addresses : ofAddresses gate.operator gate.addresses = gate.normalized := by
  obtain ⟨operator, _, _, _⟩ := gate
  cases operator <;> rfl

variable {gate}

theorem normalized_ofAddresses (operator : Operator) (addresses : List UInt64) :
    (ofAddresses operator addresses).normalized = ofAddresses operator addresses := by
  obtain _ | ⟨first, _ | ⟨second, _ | ⟨third, _ | ⟨_, _⟩⟩⟩⟩ := addresses <;> cases operator <;> rfl

theorem addresses_ofAddresses (operator : Operator) {addresses : List UInt64}
    (counted : addresses.length = operator.arity + 1) :
    (ofAddresses operator addresses).addresses = addresses := by
  obtain _ | ⟨first, _ | ⟨second, _ | ⟨third, _ | ⟨_, _⟩⟩⟩⟩ := addresses <;>
    cases operator <;> first | rfl | (simp [Operator.arity] at counted)

end Addresses

@[simp] theorem record_normalized (widths : Widths) (gate : Gate) :
    record widths gate.normalized = record widths gate := by
  simp [record]

theorem fits_normalized {widths : Widths} {gate : Gate} :
    gate.normalized.Fits widths ↔ gate.Fits widths := by
  simp [Fits]

@[simp] theorem length_record (widths : Widths) (gate : Gate) :
    (record widths gate).length = gate.recordSize widths := by
  simp [record, recordSize, Widths.recordSize]

/-- A gate is encoded whole exactly when its addresses fit. -/
theorem encode_eq_ok_iff {widths : Widths} {gate : Gate} {written : Bytes} :
    gate.encode widths = ⟨written, .ok ()⟩ ↔
      gate.Fits widths ∧ written = record widths gate := by
  have tagFits : gate.operator.tag.toNat < Field.capacity widths.opcode :=
    Field.lt_capacity_of_lt widths.opcode_bounded.1 gate.operator.tag_lt
  have tagEncoded : Field.encode widths.opcode gate.operator.tag =
      .ok (Field.digits widths.opcode gate.operator.tag.toNat) :=
    Field.encode_eq_ok_iff.mpr ⟨tagFits, rfl⟩
  simp only [encode, tagEncoded]
  constructor
  · intro encoded
    obtain ⟨rfl, finished⟩ := Encoding.mk.inj encoded
    have others : Encoding.ofFields widths.address gate.addresses =
        ⟨(Encoding.ofFields widths.address gate.addresses).written, .ok ()⟩ := by
      rw [← finished, addresses]
    obtain ⟨fit, same⟩ := Encoding.ofFields_eq_ok_iff.mp others
    exact ⟨fit, by rw [record, ← same, addresses]⟩
  · rintro ⟨fit, rfl⟩
    have others : Encoding.ofFields widths.address (gate.sources ++ [gate.destination]) =
        ⟨Field.allDigits widths.address gate.addresses, .ok ()⟩ :=
      Encoding.ofFields_eq_ok_iff.mpr ⟨fit, rfl⟩
    rw [others, record]

/-- Decoding accepts exactly the text of a gate without unread operands, followed by anything. -/
theorem decode_eq_ok_iff {widths : Widths} {offset : Nat} {bytes rest : Bytes} {gate : Gate} :
    decode widths offset bytes = .ok (gate, rest) ↔
      gate.normalized = gate ∧ gate.Fits widths ∧ bytes = record widths gate ++ rest := by
  constructor
  · intro decoded
    unfold decode at decoded
    split at decoded
    · cases decoded
    · next tagBytes afterTag tagSplit =>
      obtain ⟨rfl, tagSized⟩ := Field.split?_eq_some_iff.mp tagSplit
      simp only at decoded
      split at decoded
      · cases decoded
      · next operator known =>
        split at decoded
        · cases decoded
        · next listed later addressSplit =>
          obtain ⟨rfl, rfl⟩ := Prod.mk.inj (Except.ok.inj decoded)
          obtain ⟨counted, fit, rfl⟩ :=
            (Field.splitMany?_eq_some_iff widths.address_bounded.2).mp addressSplit
          have tagDigits := Field.digits_decode widths.opcode_bounded.2 (Nat.le_of_eq tagSized.symm)
          rw [Operator.ofTag?_eq_some_iff.mp known,
            List.take_of_length_le (Nat.le_of_eq tagSized)] at tagDigits
          have same := addresses_ofAddresses operator counted
          refine ⟨normalized_ofAddresses operator _, ?_, ?_⟩
          · rw [Fits, same]
            exact fit
          · rw [record, same, operator_ofAddresses, tagDigits, List.append_assoc]
  · rintro ⟨plain, fit, rfl⟩
    have tagFits : gate.operator.tag.toNat < Field.capacity widths.opcode :=
      Field.lt_capacity_of_lt widths.opcode_bounded.1 gate.operator.tag_lt
    have tagSplit : Field.split? widths.opcode (record widths gate ++ rest) =
        some (Field.digits widths.opcode gate.operator.tag.toNat,
          Field.allDigits widths.address gate.addresses ++ rest) :=
      Field.split?_eq_some_iff.mpr ⟨by simp [record], Field.length_digits _ _⟩
    have tagDecoded : Field.decode widths.opcode
        (Field.digits widths.opcode gate.operator.tag.toNat) = gate.operator.tag := by
      simpa using Field.decode_digits_append widths.opcode_bounded.2 tagFits []
    have addressSplit : Field.splitMany? widths.address (gate.operator.arity + 1)
        (Field.allDigits widths.address gate.addresses ++ rest) = some (gate.addresses, rest) :=
      (Field.splitMany?_eq_some_iff widths.address_bounded.2).mpr
        ⟨length_addresses gate, fit, rfl⟩
    simp only [decode, tagSplit, tagDecoded, Operator.ofTag?_tag, addressSplit,
      ofAddresses_addresses, plain]

/-- Addresses are accepted exactly when all of them lie inside the memory. -/
theorem checkAddresses_eq_ok_iff {memory : UInt64} {named : List (String × UInt64)} :
    checkAddresses memory named = .ok () ↔ ∀ entry ∈ named, entry.2 < memory := by
  induction named with
  | nil => simp [checkAddresses]
  | cons entry named ih =>
    obtain ⟨field, address⟩ := entry
    simp only [checkAddresses, List.forall_mem_cons]
    split
    · next inside => simp [inside, ih]
    · next outside => simp [outside]

/-- A gate is accepted exactly when it uses cells of the memory only. -/
theorem check_eq_ok_iff {gate : Gate} {memory : UInt64} :
    gate.check memory = .ok () ↔ ∀ address ∈ gate.addresses, address < memory := by
  rw [check, checkAddresses_eq_ok_iff]
  obtain ⟨operator, first, second, destination⟩ := gate
  cases operator <;> simp [addresses, sources, Operator.arity]

end Gate

namespace GateStream

/-- The items of a stream from a position on. -/
def itemsFrom (widths : Widths) (offset : Nat) (remaining : Bytes) :
    List (Except Malformed Gate) :=
  (collect widths offset remaining #[]).toList

section Collecting

variable {widths : Widths} {offset : Nat} {remaining rest : Bytes} {gate : Gate}
  {cause : Malformed} {collected : Array (Except Malformed Gate)}

theorem collect_nil : collect widths offset [] collected = collected := by
  rw [collect]
  rfl

theorem collect_of_ok (decoded : Gate.decode widths offset remaining = .ok (gate, rest)) :
    collect widths offset remaining collected =
      collect widths (offset + gate.recordSize widths) rest (collected.push (.ok gate)) := by
  have nonempty : ¬remaining.isEmpty = true := by
    have shorter := Gate.length_lt_of_decode decoded
    rw [List.isEmpty_iff_length_eq_zero]
    omega
  rw [collect, if_neg nonempty]
  split
  · next found =>
    obtain ⟨rfl, rfl⟩ := Prod.mk.inj (Except.ok.inj (decoded.symm.trans found))
    rfl
  · next found => cases decoded.symm.trans found

theorem collect_of_error (nonempty : remaining ≠ [])
    (decoded : Gate.decode widths offset remaining = .error cause) :
    collect widths offset remaining collected = collected.push (.error cause) := by
  rw [collect, if_neg (by simpa using nonempty)]
  split
  · next found => cases decoded.symm.trans found
  · next found => cases decoded.symm.trans found; rfl

/-- What has been collected before stays in front and changes nothing behind it. -/
theorem toList_collect : (collect widths offset remaining collected).toList =
    collected.toList ++ itemsFrom widths offset remaining := by
  unfold itemsFrom
  induction lengths : remaining.length using Nat.strongRecOn
    generalizing offset remaining collected with
  | ind length ih =>
    subst lengths
    by_cases ended : remaining = []
    · subst ended
      simp [collect_nil]
    · cases decoded : Gate.decode widths offset remaining with
      | error cause => simp [collect_of_error ended decoded]
      | ok pair =>
        obtain ⟨gate, rest⟩ := pair
        have later : ∀ front : Array (Except Malformed Gate),
            (collect widths (offset + gate.recordSize widths) rest front).toList = front.toList ++
              (collect widths (offset + gate.recordSize widths) rest #[]).toList :=
          fun front => ih rest.length (Gate.length_lt_of_decode decoded) rfl
        rw [collect_of_ok decoded, collect_of_ok decoded, later, later (Array.push #[] _)]
        simp

theorem itemsFrom_nil : itemsFrom widths offset [] = [] := by
  simp [itemsFrom, collect_nil]

theorem itemsFrom_of_ok (decoded : Gate.decode widths offset remaining = .ok (gate, rest)) :
    itemsFrom widths offset remaining =
      .ok gate :: itemsFrom widths (offset + gate.recordSize widths) rest := by
  rw [itemsFrom, collect_of_ok decoded, toList_collect]
  rfl

theorem itemsFrom_of_error (nonempty : remaining ≠ [])
    (decoded : Gate.decode widths offset remaining = .error cause) :
    itemsFrom widths offset remaining = [.error cause] := by
  rw [itemsFrom, collect_of_error nonempty decoded]
  rfl

end Collecting

/-- From any position on, a stream without a bad record is the concatenation of the records of
its gates. -/
theorem itemsFrom_eq_map_ok_iff {widths : Widths} {offset : Nat} {remaining : Bytes}
    {gates : List Gate} :
    itemsFrom widths offset remaining = gates.map .ok ↔
      (∀ gate ∈ gates, gate.normalized = gate ∧ gate.Fits widths) ∧
        remaining = gates.flatMap (Gate.record widths) := by
  constructor
  · intro items
    induction gates generalizing offset remaining with
    | nil =>
      by_cases ended : remaining = []
      · simp [ended]
      · cases decoded : Gate.decode widths offset remaining with
        | error cause => simp [itemsFrom_of_error ended decoded] at items
        | ok pair => simp [itemsFrom_of_ok decoded] at items
    | cons gate gates ih =>
      by_cases ended : remaining = []
      · simp [ended, itemsFrom_nil] at items
      · cases decoded : Gate.decode widths offset remaining with
        | error cause => simp [itemsFrom_of_error ended decoded] at items
        | ok pair =>
          obtain ⟨first, rest⟩ := pair
          rw [itemsFrom_of_ok decoded, List.map_cons] at items
          obtain ⟨head, tail⟩ := List.cons.inj items
          obtain rfl := Except.ok.inj head
          obtain ⟨plain, fits, rfl⟩ := Gate.decode_eq_ok_iff.mp decoded
          obtain ⟨others, rfl⟩ := ih tail
          refine ⟨?_, rfl⟩
          rintro other (_ | ⟨_, member⟩)
          · exact ⟨plain, fits⟩
          · exact others other member
  · rintro ⟨sound, rfl⟩
    induction gates generalizing offset with
    | nil => exact itemsFrom_nil
    | cons gate gates ih =>
      obtain ⟨plain, fits⟩ := sound gate (.head _)
      have decoded : Gate.decode widths offset ((gate :: gates).flatMap (Gate.record widths)) =
          .ok (gate, gates.flatMap (Gate.record widths)) :=
        Gate.decode_eq_ok_iff.mpr ⟨plain, fits, rfl⟩
      rw [itemsFrom_of_ok decoded, ih fun other member => sound other (.tail _ member)]
      rfl

/-- A whole stream without a bad record is the concatenation of the records of its gates. -/
theorem items_eq_map_ok_iff {widths : Widths} {stream : Bytes} {gates : List Gate} :
    items widths stream = gates.map .ok ↔
      (∀ gate ∈ gates, gate.normalized = gate ∧ gate.Fits widths) ∧
        stream = gates.flatMap (Gate.record widths) :=
  itemsFrom_eq_map_ok_iff

/-- The records of gates whose addresses fit are read back as these gates, without their unread
operands. -/
theorem items_records {widths : Widths} {gates : List Gate}
    (fit : ∀ gate ∈ gates, gate.Fits widths) :
    items widths (gates.flatMap (Gate.record widths)) = (gates.map Gate.normalized).map .ok := by
  refine items_eq_map_ok_iff.mpr ⟨?_, by simp [List.flatMap_map]⟩
  intro gate member
  obtain ⟨added, held, rfl⟩ := List.mem_map.mp member
  exact ⟨added.normalized_normalized, Gate.fits_normalized.mpr (fit added held)⟩

/-- The size of a stream lies between that of as many shortest and as many longest records. -/
theorem length_flatMap_record (widths : Widths) (gates : List Gate) :
    gates.length * (widths.opcode + widths.address) ≤
        (gates.flatMap (Gate.record widths)).length ∧
      (gates.flatMap (Gate.record widths)).length ≤
        gates.length * (widths.opcode + 3 * widths.address) := by
  induction gates with
  | nil => simp
  | cons gate gates ih =>
    have least : widths.opcode + widths.address ≤ gate.recordSize widths := by
      rw [Gate.recordSize, Widths.recordSize, Nat.succ_mul]
      omega
    have greatest : gate.recordSize widths ≤ widths.opcode + 3 * widths.address := by
      rw [Gate.recordSize, Widths.recordSize]
      cases gate.operator <;> simp only [Operator.arity] <;> omega
    rw [List.flatMap_cons, List.length_append, Gate.length_record, List.length_cons, Nat.succ_mul,
      Nat.succ_mul]
    omega

section Asking

variable {position next : GateStream} {gate : Gate}

/-- Nothing comes after an error and at the end of the bytes. -/
theorem next?_eq_none_iff : position.next? = none ↔
    position.failed = true ∨ position.remaining = [] := by
  unfold next?
  split
  · next finished => simpa using finished
  · next unfinished =>
    simp only [Bool.or_eq_true, List.isEmpty_iff] at unfinished
    split <;> simp [unfinished]

/-- A gate comes exactly where its record stands, and the position moves behind it. -/
theorem next?_eq_ok_iff : position.next? = some (.ok gate, next) ↔
    position.failed = false ∧ gate.normalized = gate ∧ gate.Fits position.widths ∧
      ∃ rest, position.remaining = Gate.record position.widths gate ++ rest ∧
        next = { position with
          offset := position.offset + gate.recordSize position.widths, remaining := rest } := by
  constructor
  · intro answered
    unfold next? at answered
    split at answered
    · cases answered
    · next unfinished =>
      split at answered
      · next found rest decoded =>
        obtain ⟨rfl, rfl⟩ := Prod.mk.inj (Option.some.inj answered) |>.imp Except.ok.inj id
        obtain ⟨plain, fits, whole⟩ := Gate.decode_eq_ok_iff.mp decoded
        refine ⟨?_, plain, fits, rest, whole, rfl⟩
        cases failed : position.failed <;> simp_all
      · cases answered
  · rintro ⟨sound, plain, fits, rest, whole, rfl⟩
    have decoded : Gate.decode position.widths position.offset position.remaining =
        .ok (gate, rest) := Gate.decode_eq_ok_iff.mpr ⟨plain, fits, whole⟩
    have nonempty : position.remaining.isEmpty = false := by
      have shorter := Gate.length_lt_of_decode decoded
      exact List.isEmpty_eq_false_iff.mpr (List.ne_nil_of_length_pos (by omega))
    simp only [next?, sound, nonempty, decoded, Bool.or_self, Bool.false_eq_true, if_false]

end Asking

/-- Stepping through a stream to its end without meeting an error, and the position reached. -/
inductive Walk : GateStream → List Gate → GateStream → Prop where
  | stop {stream : GateStream} (ended : stream.next? = none) : Walk stream [] stream
  | step {stream next last : GateStream} {gate : Gate} {gates : List Gate}
      (answered : stream.next? = some (.ok gate, next)) (later : Walk next gates last) :
      Walk stream (gate :: gates) last

/-- A step without an error moves the position over the bytes it takes. -/
theorem offset_of_next? {stream next : GateStream} {gate : Gate}
    (answered : stream.next? = some (.ok gate, next)) : next.failed = stream.failed ∧
      next.offset + next.remaining.length = stream.offset + stream.remaining.length := by
  obtain ⟨-, -, -, rest, whole, rfl⟩ := next?_eq_ok_iff.mp answered
  refine ⟨rfl, ?_⟩
  rw [whole, List.length_append, Gate.length_record, Nat.add_assoc]

/-- The end that is reached without an error is the end of the bytes. -/
theorem Walk.offset_eq {stream last : GateStream} {gates : List Gate}
    (walk : Walk stream gates last) (sound : stream.failed = false) :
    last.offset = stream.offset + stream.remaining.length := by
  induction walk with
  | @stop stream ended =>
    have empty : stream.remaining = [] := by simpa [sound] using next?_eq_none_iff.mp ended
    rw [empty, List.length_nil, Nat.add_zero]
  | step answered later ih =>
    obtain ⟨kept, moved⟩ := offset_of_next? answered
    rw [ih (kept.trans sound), moved]

/-- A stream without a bad record can be walked through. -/
theorem walk_of_items {widths : Widths} {stream : Bytes} {gates : List Gate}
    (decoded : items widths stream = gates.map .ok) :
    ∃ last, Walk (start widths stream) gates last := by
  obtain ⟨sound, rfl⟩ := items_eq_map_ok_iff.mp decoded
  clear decoded
  rw [start]
  generalize 0 = offset
  induction gates generalizing offset with
  | nil => exact ⟨_, .stop rfl⟩
  | cons gate gates ih =>
    obtain ⟨plain, fits⟩ := sound gate (.head _)
    obtain ⟨last, later⟩ := ih (fun other member => sound other (.tail _ member))
      (offset + gate.recordSize widths)
    exact ⟨last, .step (next?_eq_ok_iff.mpr ⟨rfl, plain, fits, _, rfl, rfl⟩) later⟩

end GateStream

end Bitslice
