import Bitslice.Proofs.Records

/-!
# Reading opcode streams

Records have no separators and three different lengths, so what a stream holds is
decided while it is read. `GateStream.Steps` asks for one item after the other.
The encodings of the gates found so far always reach from the start of the stream
up to the position (`GateStream.HasRead`). An error is met exactly where no gate's
encoding begins, and `Gate.BadRecord` says what it reports.
-/

namespace Bitslice

namespace Field

theorem splitMany?_eq_none_iff {width count : Nat} {bytes : Bytes} :
    splitMany? width count bytes = none ↔ bytes.length < count * width := by
  induction count generalizing bytes with
  | zero => simp [splitMany?]
  | succ count ih =>
    rw [Nat.succ_mul]
    unfold splitMany?
    split
    · next missing =>
      have short := split?_eq_none_iff.mp missing
      simp only [true_iff]
      omega
    · next leading later first =>
      have taken := length_of_split? first
      split
      · next missing =>
        have short := ih.mp missing
        simp only [true_iff]
        omega
      · next fields rest others =>
        have enough := length_of_splitMany? others
        simp only [reduceCtorEq, false_iff]
        omega

end Field

theorem Operator.ofTag?_eq_none_iff {tag : UInt64} :
    ofTag? tag = none ↔ ∀ operator : Operator, tag ≠ operator.tag := by
  rw [Option.eq_none_iff_forall_ne_some]
  exact forall_congr' fun operator => not_congr ofTag?_eq_some_iff

namespace Gate

/-- What is wrong where no record stands in front of some bytes at `offset` of their stream: they
end inside the tag, the tag is whole but names no operator, or they end inside the record of the
operator that it names. -/
inductive BadRecord (widths : Widths) (offset : Nat) (bytes : Bytes) : Malformed → Prop where
  | tagCut (short : bytes.length < widths.opcode) :
      BadRecord widths offset bytes (.truncated offset widths.opcode bytes.length)
  | unknownTag {tag : UInt64} (whole : widths.opcode ≤ bytes.length)
      (read : tag.toNat = Field.value (bytes.take widths.opcode))
      (unknown : ∀ operator : Operator, tag ≠ operator.tag) :
      BadRecord widths offset bytes (.invalidOpcode tag offset)
  | recordCut {operator : Operator} (whole : widths.opcode ≤ bytes.length)
      (read : operator.tag.toNat = Field.value (bytes.take widths.opcode))
      (short : bytes.length < widths.recordSize operator) :
      BadRecord widths offset bytes (.truncated offset (widths.recordSize operator) bytes.length)

section Failing

variable {widths : Widths} {offset : Nat} {bytes : Bytes} {cause : Malformed}

/-- Decoding fails with exactly what is wrong. -/
theorem decode_eq_error_iff :
    decode widths offset bytes = .error cause ↔ BadRecord widths offset bytes cause := by
  have tagRead := Field.toNat_decode widths.opcode_bounded.2
  constructor
  · intro failed
    unfold decode at failed
    split at failed
    · next missing =>
      obtain rfl := Except.error.inj failed
      exact .tagCut (Field.split?_eq_none_iff.mp missing)
    · next tagBytes afterTag tagSplit =>
      obtain ⟨rfl, sized⟩ := Field.split?_eq_some_iff.mp tagSplit
      have whole : widths.opcode ≤ (tagBytes ++ afterTag).length := by
        rw [List.length_append]
        omega
      have front : (tagBytes ++ afterTag).take widths.opcode = tagBytes.take widths.opcode :=
        List.take_append_of_le_length (Nat.le_of_eq sized.symm)
      simp only at failed
      split at failed
      · next missing =>
        obtain rfl := Except.error.inj failed
        exact .unknownTag whole (by rw [tagRead, front]) (Operator.ofTag?_eq_none_iff.mp missing)
      · next operator known =>
        split at failed
        · next missing =>
          obtain rfl := Except.error.inj failed
          have short := Field.splitMany?_eq_none_iff.mp missing
          refine .recordCut whole ?_ ?_
          · rw [← Operator.ofTag?_eq_some_iff.mp known, tagRead, front]
          · rw [List.length_append, Widths.recordSize]
            omega
        · cases failed
  · intro bad
    have tagSplit (whole : widths.opcode ≤ bytes.length) : Field.split? widths.opcode bytes =
        some (bytes.take widths.opcode, bytes.drop widths.opcode) :=
      Field.split?_eq_some_iff.mpr ⟨by simp, by simp [whole]⟩
    have tagIs {tag : UInt64} (read : tag.toNat = Field.value (bytes.take widths.opcode)) :
        Field.decode widths.opcode (bytes.take widths.opcode) = tag := by
      apply UInt64.toNat_inj.mp
      rw [tagRead, read, List.take_take, Nat.min_self]
    cases bad with
    | tagCut short => rw [decode, Field.split?_eq_none_iff.mpr short]
    | unknownTag whole read unknown =>
      simp only [decode, tagSplit whole, tagIs read, Operator.ofTag?_eq_none_iff.mpr unknown]
    | @recordCut operator whole read short =>
      have missing : Field.splitMany? widths.address (operator.arity + 1)
          (bytes.drop widths.opcode) = none := by
        rw [Widths.recordSize] at short
        rw [Field.splitMany?_eq_none_iff, List.length_drop]
        omega
      simp only [decode, tagSplit whole, tagIs read, Operator.ofTag?_tag, missing]

/-- Something is wrong exactly where no gate's encoding stands in front. -/
theorem exists_badRecord_iff (offset : Nat) : (∃ cause, BadRecord widths offset bytes cause) ↔
    ∀ (gate : Gate) (written : Bytes), gate.encode widths = ⟨written, .ok ()⟩ →
      ¬written <+: bytes := by
  constructor
  · rintro ⟨cause, bad⟩ gate written encoded ⟨rest, rfl⟩
    obtain ⟨fits, rfl⟩ := encode_eq_ok_iff.mp encoded
    have decoded : decode widths offset (record widths gate ++ rest) =
        .ok (gate.normalized, rest) :=
      decode_eq_ok_iff.mpr ⟨gate.normalized_normalized, fits_normalized.mpr fits, by simp⟩
    cases (decode_eq_error_iff.mpr bad).symm.trans decoded
  · intro none
    cases decoded : decode widths offset bytes with
    | error cause => exact ⟨cause, decode_eq_error_iff.mp decoded⟩
    | ok pair =>
      obtain ⟨gate, rest⟩ := pair
      obtain ⟨-, fits, rfl⟩ := decode_eq_ok_iff.mp decoded
      exact absurd (List.prefix_append _ _) (none gate _ (encode_eq_ok_iff.mpr ⟨fits, rfl⟩))

theorem result_encode_iff {gate : Gate} :
    (gate.encode widths).result = .ok () ↔ gate.Fits widths := by
  constructor
  · intro encoded
    exact (encode_eq_ok_iff.mp (show gate.encode widths = ⟨_, .ok ()⟩ by rw [← encoded])).1
  · intro fits
    rw [encode_eq_ok_iff.mpr ⟨fits, rfl⟩]

theorem written_encode {gate : Gate} (fits : gate.Fits widths) :
    (gate.encode widths).written = record widths gate := by
  rw [encode_eq_ok_iff.mpr ⟨fits, rfl⟩]

end Failing

end Gate

namespace GateStream

/-- The gates are encoded one after the other as these bytes. -/
def EncodedAs (widths : Widths) (gates : List Gate) (bytes : Bytes) : Prop :=
  (∀ gate ∈ gates, (gate.encode widths).result = .ok ()) ∧
    gates.flatMap (fun gate => (gate.encode widths).written) = bytes

/-- Zero or more items that are asked for one after the other, and the position then reached. -/
inductive Steps (first : GateStream) : List (Except Malformed Gate) → GateStream → Prop where
  | refl : Steps first [] first
  | step {found : List (Except Malformed Gate)} {item : Except Malformed Gate}
      {position next : GateStream} (prior : Steps first found position)
      (answered : position.next? = some (item, next)) : Steps first (found ++ [item]) next

/-- Some gates have been read off a stream: their encodings reach up to the position, and the
rest of the stream is left. -/
structure HasRead (widths : Widths) (stream : Bytes) (gates : List Gate) (position : GateStream) :
    Prop where
  sameWidths : position.widths = widths
  inside : position.offset ≤ stream.length
  rest : position.remaining = stream.drop position.offset
  encoded : EncodedAs widths gates (stream.take position.offset)

variable {widths : Widths} {stream bytes : Bytes} {gates : List Gate} {gate : Gate}
  {cause : Malformed} {first position next last : GateStream}
  {found : List (Except Malformed Gate)} {item : Except Malformed Gate}

theorem encodedAs_iff : EncodedAs widths gates bytes ↔
    (∀ gate ∈ gates, gate.Fits widths) ∧ bytes = gates.flatMap (Gate.record widths) := by
  have same (fit : ∀ gate ∈ gates, gate.Fits widths) :
      gates.flatMap (fun gate => (gate.encode widths).written) =
        gates.flatMap (Gate.record widths) := by
    rw [List.flatMap_def, List.flatMap_def]
    exact congrArg List.flatten
      (List.map_congr_left fun gate member => Gate.written_encode (fit gate member))
  simp only [EncodedAs, Gate.result_encode_iff]
  constructor
  · rintro ⟨fit, rfl⟩
    exact ⟨fit, same fit⟩
  · rintro ⟨fit, rfl⟩
    exact ⟨fit, same fit⟩

/-- An error comes exactly where something is wrong, and the position stays. -/
theorem next?_eq_error_iff : position.next? = some (.error cause, next) ↔
    position.failed = false ∧ position.remaining ≠ [] ∧
      Gate.BadRecord position.widths position.offset position.remaining cause ∧
      next = { position with failed := true } := by
  constructor
  · intro answered
    unfold next? at answered
    split at answered
    · cases answered
    · next unfinished =>
      simp only [Bool.or_eq_true, List.isEmpty_iff, not_or, Bool.not_eq_true] at unfinished
      split at answered
      · cases answered
      · next found decoded =>
        obtain ⟨rfl, rfl⟩ := Prod.mk.inj (Option.some.inj answered) |>.imp Except.error.inj id
        exact ⟨unfinished.1, unfinished.2, Gate.decode_eq_error_iff.mp decoded, rfl⟩
  · rintro ⟨sound, nonempty, bad, rfl⟩
    have decoded := Gate.decode_eq_error_iff.mpr bad
    have some : position.remaining.isEmpty = false := List.isEmpty_eq_false_iff.mpr nonempty
    simp only [next?, sound, some, decoded, Bool.or_self, Bool.false_eq_true, if_false]

section Running

theorem Steps.trans {others : List (Except Malformed Gate)} (before : Steps first found position)
    (after : Steps position others last) : Steps first (found ++ others) last := by
  induction after with
  | refl => rwa [List.append_nil]
  | step prior answered ih =>
    rw [← List.append_assoc]
    exact ih.step answered

theorem steps_singleton (answered : position.next? = some (item, next)) :
    Steps position [item] next :=
  Steps.refl.step answered

theorem hasRead_start : HasRead widths stream [] (start widths stream) where
  sameWidths := rfl
  inside := Nat.zero_le _
  rest := rfl
  encoded := encodedAs_iff.mpr ⟨by simp, by simp [start]⟩

/-- One more gate has been read behind the others. -/
theorem HasRead.one_more (read : HasRead widths stream gates position)
    (answered : position.next? = some (.ok gate, next)) :
    HasRead widths stream (gates ++ [gate]) next := by
  obtain ⟨rfl, inside, rest, encoded⟩ := read
  obtain ⟨fit, before⟩ := encodedAs_iff.mp encoded
  obtain ⟨-, -, fits, later, whole, rfl⟩ := next?_eq_ok_iff.mp answered
  have sizes := congrArg List.length whole
  rw [rest, List.length_append, List.length_drop, Gate.length_record] at sizes
  have taken : stream.take (position.offset + gate.recordSize position.widths) =
      stream.take position.offset ++ Gate.record position.widths gate := by
    rw [List.take_add, ← rest, whole, List.take_left' (Gate.length_record _ _)]
  refine ⟨rfl, ?_, ?_, encodedAs_iff.mpr ⟨?_, ?_⟩⟩
  · simp only
    omega
  · simp only
    rw [← List.drop_drop, ← rest, whole, List.drop_left' (Gate.length_record _ _)]
  · intro other member
    rcases List.mem_append.mp member with earlier | added
    · exact fit other earlier
    · rwa [List.mem_singleton.mp added]
  · simp only
    rw [taken, before, List.flatMap_append, List.flatMap_singleton]

/-- Every record takes two bytes or more. -/
theorem HasRead.length_le (read : HasRead widths stream gates position) :
    2 * gates.length ≤ position.offset := by
  obtain ⟨-, before⟩ := encodedAs_iff.mp read.encoded
  have positive := widths.opcode_bounded.1
  have positiveToo := widths.address_bounded.1
  have least := (length_flatMap_record widths gates).1
  rw [← before, List.length_take, Nat.min_eq_left read.inside] at least
  calc 2 * gates.length = gates.length * 2 := Nat.mul_comm _ _
    _ ≤ gates.length * (widths.opcode + widths.address) := Nat.mul_le_mul_left _ (by omega)
    _ ≤ position.offset := least

/-- All that any number of requests can have brought: gates, and perhaps an error behind them. -/
theorem Steps.hasRead (steps : Steps (start widths stream) found position) :
    ∃ gates, HasRead widths stream gates position ∧
      ((found = gates.map .ok ∧ position.failed = false) ∨
        ∃ cause, found = gates.map .ok ++ [.error cause] ∧ position.failed = true ∧
          stream.drop position.offset ≠ [] ∧
          Gate.BadRecord widths position.offset (stream.drop position.offset) cause) := by
  induction steps with
  | refl => exact ⟨[], hasRead_start, .inl ⟨rfl, rfl⟩⟩
  | @step found item position next prior answered ih =>
    obtain ⟨gates, read, ⟨rfl, sound⟩ | ⟨cause, -, failed, -⟩⟩ := ih
    · cases item with
      | ok gate =>
        have moved := (next?_eq_ok_iff.mp answered).2.2.2
        obtain ⟨rest, -, same⟩ := moved
        refine ⟨gates ++ [gate], read.one_more answered, .inl ⟨by simp, ?_⟩⟩
        rw [same]
        exact sound
      | error cause =>
        obtain ⟨-, nonempty, bad, rfl⟩ := next?_eq_error_iff.mp answered
        obtain ⟨rfl, inside, rest, encoded⟩ := read
        rw [rest] at nonempty bad
        exact ⟨gates, ⟨rfl, inside, rest, encoded⟩, .inr ⟨cause, rfl, rfl, nonempty, bad⟩⟩
    · rw [next?_eq_none_iff.mpr (.inl failed)] at answered
      cases answered

/-- Asking comes to an end, with the items of the whole stream. The induction is on the bytes that
are left. -/
theorem exists_steps_itemsFrom (offset : Nat) (remaining : Bytes) :
    ∃ last, Steps ⟨widths, offset, remaining, false⟩ (itemsFrom widths offset remaining) last ∧
      last.next? = none := by
  induction lengths : remaining.length using Nat.strongRecOn generalizing offset remaining with
  | ind length ih =>
    subst lengths
    by_cases ended : remaining = []
    · subst ended
      rw [itemsFrom_nil]
      exact ⟨_, .refl, next?_eq_none_iff.mpr (.inr rfl)⟩
    · cases decoded : Gate.decode widths offset remaining with
      | error cause =>
        rw [itemsFrom_of_error ended decoded]
        exact ⟨_, steps_singleton (next?_eq_error_iff.mpr
          ⟨rfl, ended, Gate.decode_eq_error_iff.mp decoded, rfl⟩), next?_eq_none_iff.mpr (.inl rfl)⟩
      | ok pair =>
        obtain ⟨gate, rest⟩ := pair
        obtain ⟨plain, fits, whole⟩ := Gate.decode_eq_ok_iff.mp decoded
        have first : next? ⟨widths, offset, remaining, false⟩ = some (.ok gate, _) :=
          next?_eq_ok_iff.mpr ⟨rfl, plain, fits, rest, whole, rfl⟩
        obtain ⟨last, later, finished⟩ :=
          ih rest.length (Gate.length_lt_of_decode decoded) _ rest rfl
        rw [itemsFrom_of_ok decoded]
        exact ⟨last, (steps_singleton first).trans later, finished⟩

/-- Without an error so far, nothing follows exactly at the end of the stream. -/
theorem HasRead.ended_iff (read : HasRead widths stream gates position)
    (sound : position.failed = false) :
    position.next? = none ↔ position.offset = stream.length := by
  have inside := read.inside
  rw [next?_eq_none_iff, read.rest, sound, List.drop_eq_nil_iff]
  simp only [Bool.false_eq_true, false_or]
  omega

/-- Without an error so far, one follows exactly where no gate's encoding is in front of what is
left. -/
theorem HasRead.stopped_iff (read : HasRead widths stream gates position)
    (sound : position.failed = false) :
    (∃ cause next, position.next? = some (.error cause, next)) ↔
      stream.drop position.offset ≠ [] ∧
        ∀ (gate : Gate) (written : Bytes), gate.encode widths = ⟨written, .ok ()⟩ →
          ¬written <+: stream.drop position.offset := by
  rw [← Gate.exists_badRecord_iff position.offset]
  simp only [next?_eq_error_iff, read.rest, read.sameWidths, sound, true_and]
  constructor
  · rintro ⟨cause, next, nonempty, bad, -⟩
    exact ⟨nonempty, cause, bad⟩
  · rintro ⟨nonempty, cause, bad⟩
    exact ⟨cause, _, nonempty, bad, rfl⟩

/-- The records of gates whose addresses fit are read to their end. -/
theorem exists_steps_records (fit : ∀ gate ∈ gates, gate.Fits widths) :
    ∃ last, Steps (start widths (gates.flatMap (Gate.record widths)))
        (gates.map fun gate => .ok gate.normalized) last ∧
      last.next? = none ∧ last.offset = (gates.flatMap (Gate.record widths)).length := by
  obtain ⟨last, steps, finished⟩ :=
    @exists_steps_itemsFrom widths 0 (gates.flatMap (Gate.record widths))
  rw [show itemsFrom widths 0 _ = _ from items_records fit, List.map_map] at steps
  refine ⟨last, steps, finished, ?_⟩
  obtain ⟨others, read, ⟨-, sound⟩ | ⟨cause, same, -⟩⟩ := steps.hasRead
  · exact (read.ended_iff sound).mp finished
  · have member : Except.error cause ∈ gates.map (Except.ok ∘ Gate.normalized) := by
      rw [same]
      exact List.mem_append_right _ (.head _)
    simp at member

end Running

/-- The decoder reads exactly the record language. Asked for items until there is none, it comes to
an end after at most half as many as the stream has bytes, and one. Whenever it is stopped, the
encodings of the gates that it has yielded are exactly the bytes up to its position. Without an
error so far, nothing follows exactly at the end of the stream, and an error follows exactly where
no gate's encoding is in front of a nonempty rest. That error says what is wrong with the rest, does
not move the position and is the last item. Conversely, gates whose used addresses fit are encoded
as records of their sizes, and read back from all these in a row without their unread operands. -/
theorem decoder_reads_record_language (widths : Widths) :
    (∀ stream : Bytes,
      (∃ last, Steps (start widths stream) (items widths stream) last ∧ last.next? = none) ∧
        ∀ found position, Steps (start widths stream) found position →
          found.length ≤ stream.length / 2 + 1 ∧
            ∃ gates : List Gate, position.offset ≤ stream.length ∧
              EncodedAs widths gates (stream.take position.offset) ∧
              ((found = gates.map .ok ∧
                  (position.next? = none ↔ position.offset = stream.length) ∧
                  ((∃ cause next, position.next? = some (.error cause, next)) ↔
                    stream.drop position.offset ≠ [] ∧
                      ∀ (gate : Gate) (written : Bytes), gate.encode widths = ⟨written, .ok ()⟩ →
                        ¬written <+: stream.drop position.offset)) ∨
                ∃ cause, found = gates.map .ok ++ [.error cause] ∧
                  position.next? = none ∧ position.offset < stream.length ∧
                  Gate.BadRecord widths position.offset (stream.drop position.offset) cause)) ∧
      ∀ gates : List Gate, (∀ gate ∈ gates, gate.Fits widths) →
        (∀ gate ∈ gates, ∃ written, gate.encode widths = ⟨written, .ok ()⟩ ∧
            written.length = gate.recordSize widths) ∧
          ∃ stream last, EncodedAs widths gates stream ∧
            Steps (start widths stream) (gates.map fun gate => .ok gate.normalized) last ∧
            last.next? = none ∧ last.offset = stream.length := by
  constructor
  · intro stream
    refine ⟨exists_steps_itemsFrom 0 stream, ?_⟩
    intro found position steps
    obtain ⟨gates, read, kind⟩ := steps.hasRead
    have counted := read.length_le
    have inside := read.inside
    rcases kind with ⟨rfl, sound⟩ | ⟨cause, rfl, failed, nonempty, bad⟩
    · refine ⟨?_, gates, inside, read.encoded,
        .inl ⟨rfl, read.ended_iff sound, read.stopped_iff sound⟩⟩
      rw [List.length_map]
      omega
    · have finished : position.next? = none := next?_eq_none_iff.mpr (.inl failed)
      have before : position.offset < stream.length := by
        rw [ne_eq, List.drop_eq_nil_iff] at nonempty
        omega
      refine ⟨?_, gates, inside, read.encoded, .inr ⟨cause, rfl, finished, before, bad⟩⟩
      rw [List.length_append, List.length_map, List.length_singleton]
      omega
  · intro gates fit
    obtain ⟨last, steps, finished, reached⟩ := exists_steps_records fit
    refine ⟨?_, _, last, encodedAs_iff.mpr ⟨fit, rfl⟩, steps, finished, reached⟩
    intro gate member
    exact ⟨Gate.record widths gate, Gate.encode_eq_ok_iff.mpr ⟨fit gate member, rfl⟩,
      Gate.length_record widths gate⟩

/-- Two gates that name operands they do not read, encoded and read back, and a stream whose second
record is cut off after its tag and a byte. -/
theorem two_gates_are_read_back :
    let gates : List Gate := [⟨.not, 3, 9, 1⟩, ⟨.random, 5, 6, 2⟩]
    (∀ gate ∈ gates, gate.Fits Widths.fixed) ∧
      (∃ stream last, EncodedAs Widths.fixed gates stream ∧
        Steps (start Widths.fixed stream) [.ok ⟨.not, 3, 0, 1⟩, .ok ⟨.random, 0, 0, 2⟩] last ∧
        last.next? = none ∧ last.offset = stream.length) ∧
      ∃ last, Steps (start Widths.fixed [5, 2, 0, 4, 3])
        [.ok ⟨.random, 0, 0, 2⟩, .error (.truncated 3 5 2)] last ∧ last.next? = none := by
  intro gates
  have fit : ∀ gate ∈ gates, gate.Fits Widths.fixed := by
    simp [gates, Gate.Fits, Gate.addresses, Gate.sources, Operator.arity, Widths.fixed,
      Field.capacity]
  have cut : items Widths.fixed [5, 2, 0, 4, 3] =
      [.ok ⟨.random, 0, 0, 2⟩, .error (.truncated 3 5 2)] := by cbv
  obtain ⟨readings, readBack⟩ := decoder_reads_record_language Widths.fixed
  have stopped := (readings [5, 2, 0, 4, 3]).1
  rw [cut] at stopped
  exact ⟨fit, (readBack gates fit).2, stopped⟩

end GateStream

end Bitslice
