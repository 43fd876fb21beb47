import Bitslice.Proofs.Serving
import Bitslice.Proofs.Sessions

/-!
# Stored traces are accepted by length

Any bytes serve as a stored trace. The records are what stands whole in front
(`Trace.recordsOf`), and bytes left over behind them are one error. Whether a
trace belongs to a circuit is therefore a matter of its length alone: replay
wants one record for each gate, and keeps for each cell the record of the last
gate that writes it (`Trace.Collects`).
-/

namespace Bitslice

variable {lanes : Lanes}

namespace Trace

/-- The records that stand whole at the front of some bytes. -/
def recordsOf (lanes : Lanes) (bytes : Bytes) : List (Register lanes) :=
  (Bits.rows lanes.bytes (bytes.length / lanes.bytes) bytes).map (Register.decode lanes)

/-- The error that bytes behind the last whole record make. -/
def leftover (lanes : Lanes) (bytes : Bytes) : Option IoFailure :=
  if bytes.length % lanes.bytes = 0 then none else some .partialRecord

section Bytes

variable {bytes : Bytes}

@[simp] theorem length_recordsOf (lanes : Lanes) (bytes : Bytes) :
    (recordsOf lanes bytes).length = bytes.length / lanes.bytes := by
  rw [recordsOf, List.length_map, Bits.length_rows lanes.bytes_pos, Nat.min_self]

theorem recordsOf_of_lt (short : bytes.length < lanes.bytes) : recordsOf lanes bytes = [] := by
  rw [recordsOf, Bits.rows_of_lt short, List.map_nil]

theorem recordsOf_of_le (enough : lanes.bytes ≤ bytes.length) :
    recordsOf lanes bytes =
      Register.decode lanes (bytes.take lanes.bytes) ::
        recordsOf lanes (bytes.drop lanes.bytes) := by
  rw [recordsOf, Nat.div_eq_sub_div lanes.bytes_pos enough, Bits.rows_of_le enough, List.map_cons,
    recordsOf, List.length_drop]

theorem leftover_of_lt (short : bytes.length < lanes.bytes) :
    leftover lanes bytes = if bytes = [] then none else some .partialRecord := by
  rw [leftover, Nat.mod_eq_of_lt short]
  simp only [List.length_eq_zero_iff]

/-- A record in front changes nothing about what is left over in the end. -/
theorem leftover_of_le (enough : lanes.bytes ≤ bytes.length) :
    leftover lanes bytes = leftover lanes (bytes.drop lanes.bytes) := by
  rw [leftover, leftover, List.length_drop, Nat.mod_eq_sub_mod enough]

theorem kind_leftover (lanes : Lanes) (bytes : Bytes) :
    (leftover lanes bytes).map IoFailure.kind =
      if bytes.length % lanes.bytes = 0 then none else some .unexpectedEnd := by
  unfold leftover
  split <;> rfl

end Bytes

section Reading

variable {source : ByteSource}

/-- A source with a record in front answers with it and goes on behind it. -/
theorem next?_of_le (enough : lanes.bytes ≤ source.contents.length) :
    ∃ later, next? lanes source =
        (some (.ok (Register.decode lanes (source.contents.take lanes.bytes))), later) ∧
      later.contents = source.contents.drop lanes.bytes ∧ later.failure = source.failure := by
  refine ⟨(source.fill lanes.bytes).2, ?_, source.contents_fill _, source.failure_fill _⟩
  rw [next?, ByteSource.fill_of_le enough]

/-- A source with less than a record answers with its failure, else with what is left over, else
with nothing; then it is empty. -/
theorem next?_of_lt (short : source.contents.length < lanes.bytes) :
    ∃ later, next? lanes source =
        ((source.failure.or (leftover lanes source.contents)).map .error, later) ∧
      later.contents = [] ∧ later.failure = source.failure := by
  have answer := source.fill_eq_outcome lanes.bytes
  unfold Filled.ofContents at answer
  rw [if_neg (Nat.not_le_of_lt short), List.nil_append] at answer
  have emptied : (source.fill lanes.bytes).2.contents = [] := by
    rw [source.contents_fill]
    exact List.drop_eq_nil_of_le (Nat.le_of_lt short)
  refine ⟨(source.fill lanes.bytes).2, ?_, emptied, source.failure_fill _⟩
  rw [leftover_of_lt short]
  cases ending : source.failure with
  | some cause =>
    rw [ending] at answer
    have filled : source.fill lanes.bytes = (.failed cause, (source.fill lanes.bytes).2) :=
      Prod.ext answer rfl
    rw [next?, filled]
    rfl
  | none =>
    rw [ending] at answer
    have filled : source.fill lanes.bytes =
        (.short source.contents, (source.fill lanes.bytes).2) := Prod.ext answer rfl
    rw [next?, filled]
    cases source.contents <;> rfl

/-- A source is read as the records that stand whole in it. What ends the reading is its failure,
else what is left over. The induction is on the records that are taken. -/
theorem read_eq (lanes : Lanes) (source : ByteSource) :
    (read lanes source).records = recordsOf lanes source.contents ∧
      (read lanes source).failure = source.failure.or (leftover lanes source.contents) := by
  induction sizes : source.size using Nat.strongRecOn generalizing source with
  | ind size ih =>
    subst sizes
    by_cases enough : lanes.bytes ≤ source.contents.length
    · obtain ⟨later, answered, rest, ending⟩ := next?_of_le enough
      obtain ⟨records, failure⟩ := ih later.size (size_of_next? answered) later rfl
      rw [rest] at records failure
      rw [ending] at failure
      rw [read, readFrom_of_record answered, readFrom_eq, recordsOf_of_le enough,
        leftover_of_le enough]
      exact ⟨congrArg (_ :: ·) records, failure⟩
    · have short := Nat.lt_of_not_le enough
      obtain ⟨later, answered, -, -⟩ := next?_of_lt short
      rw [recordsOf_of_lt short]
      cases ended : source.failure.or (leftover lanes source.contents) with
      | none =>
        rw [ended] at answered
        rw [read, readFrom_of_end answered]
        exact ⟨rfl, rfl⟩
      | some cause =>
        rw [ended] at answered
        rw [read, readFrom_of_failure answered]
        exact ⟨rfl, rfl⟩

/-- What a source that comes to a good end yields. -/
theorem items_eq (sound : source.failure = none) :
    items lanes source = (recordsOf lanes source.contents).map .ok ++
      (leftover lanes source.contents).toList.map .error := by
  obtain ⟨records, failure⟩ := read_eq lanes source
  rw [items, records, failure, sound, Option.none_or]

theorem items_of_contents_nil (empty : source.contents = []) (sound : source.failure = none) :
    items lanes source = [] := by
  have short : ([] : Bytes).length < lanes.bytes := lanes.bytes_pos
  rw [items_eq sound, empty, recordsOf_of_lt short, leftover_of_lt short]
  rfl

/-- Successive requests are answered with what the source yields, and with nothing from then on. -/
theorem answers_eq (sound : source.failure = none) (count : Nat) :
    answers lanes count source =
      (List.range count).map fun request => (items lanes source)[request]? := by
  induction count generalizing source with
  | zero => rfl
  | succ count ih =>
    rw [answers, List.range_succ_eq_map, List.map_cons, List.map_map]
    by_cases enough : lanes.bytes ≤ source.contents.length
    · obtain ⟨later, answered, -, ending⟩ := next?_of_le enough
      rw [items_of_record answered, answered, ih (ending.trans sound)]
      rfl
    · have short := Nat.lt_of_not_le enough
      obtain ⟨later, answered, empty, ending⟩ := next?_of_lt short
      have nothing : items lanes later = [] := items_of_contents_nil empty (ending.trans sound)
      rw [answered, ih (ending.trans sound), nothing, items_eq sound, recordsOf_of_lt short, sound]
      cases leftover lanes source.contents <;> rfl

end Reading

end Trace

/-- The gate with this number writes the cell, and no later gate does. -/
structure Gate.LastWrites (gates : List Gate) (number key : Nat) : Prop where
  writes : ∃ gate, gates[number]? = some gate ∧ gate.destination.toNat = key
  last : ∀ later gate, number < later → gates[later]? = some gate → gate.destination.toNat ≠ key

namespace Gate

variable {gate : Gate} {gates : List Gate} {number key : Nat}

theorem lastWrites_succ_iff :
    LastWrites (gate :: gates) (number + 1) key ↔ LastWrites gates number key := by
  constructor
  · rintro ⟨writes, last⟩
    refine ⟨writes, ?_⟩
    intro later other behind
    exact last (later + 1) other (Nat.succ_lt_succ behind)
  · rintro ⟨writes, last⟩
    refine ⟨writes, ?_⟩
    rintro (_ | later) other behind
    · cases behind
    · exact last later other (Nat.lt_of_succ_lt_succ behind)

/-- A cell that is written is written last by some gate. -/
theorem exists_lastWrites (written : ∃ gate ∈ gates, gate.destination.toNat = key) :
    ∃ number, LastWrites gates number key := by
  obtain ⟨number, gate, found, writes, last⟩ := exists_last written
  exact ⟨number, ⟨gate, found, writes⟩, last⟩

end Gate

namespace Trace

/-- Going on from some cells, each cell that the gates write has got the record of the last gate
that writes it, and the others are as they were. -/
structure Collects (gates : List Gate) (records : List (Register lanes))
    (cells last : CellMap lanes) : Prop where
  kept : ∀ key, (∀ gate ∈ gates, gate.destination.toNat ≠ key) → last[key]? = cells[key]?
  latest : ∀ number key, Gate.LastWrites gates number key → last[key]? = records[number]?

namespace Collects

variable {gate : Gate} {gates : List Gate} {register : Register lanes}
  {records : List (Register lanes)} {cells last : CellMap lanes}

theorem nil (cells : CellMap lanes) : Collects [] [] cells cells where
  kept _ _ := rfl
  latest _ _ last := by
    obtain ⟨gate, found, -⟩ := last.writes
    cases found

/-- One gate in front: its record stays unless a later gate writes the same cell. -/
theorem cons (later : Collects gates records (cells.insert gate.destination.toNat register) last) :
    Collects (gate :: gates) (register :: records) cells last where
  kept := by
    intro key unwritten
    have elsewhere : compare gate.destination.toNat key ≠ .eq := fun equal =>
      unwritten gate (.head _) (Std.LawfulEqOrd.eq_of_compare equal)
    rw [later.kept key fun other member => unwritten other (.tail _ member),
      Std.TreeMap.getElem?_insert, if_neg elsewhere]
  latest := by
    rintro (_ | number) key lastWrites
    · obtain ⟨⟨_, ⟨⟩, rfl⟩, last⟩ := lastWrites
      have unwritten : ∀ other ∈ gates, other.destination.toNat ≠ gate.destination.toNat := by
        intro other member
        obtain ⟨index, found⟩ := List.getElem?_of_mem member
        exact last (index + 1) other (Nat.succ_pos index) found
      rw [later.kept _ unwritten, Std.TreeMap.getElem?_insert_self]
      rfl
    · exact later.latest number key (Gate.lastWrites_succ_iff.mp lastWrites)

/-- Starting with no cells, exactly the cells that some gate writes are collected. -/
theorem mem_iff (collects : Collects gates records ∅ last)
    (counted : records.length = gates.length) (key : Nat) :
    key ∈ last ↔ ∃ gate ∈ gates, gate.destination.toNat = key := by
  constructor
  · intro present
    refine Classical.byContradiction fun unwritten => ?_
    have absent : last[key]? = none := by
      rw [collects.kept key fun gate member same => unwritten ⟨gate, member, same⟩,
        Std.TreeMap.getElem?_emptyc]
    rw [Std.TreeMap.getElem?_eq_some_getElem present] at absent
    cases absent
  · intro written
    obtain ⟨number, lastWrites⟩ := Gate.exists_lastWrites written
    obtain ⟨gate, found, -⟩ := lastWrites.writes
    have inside : number < records.length := by
      rw [counted]
      exact (List.getElem?_eq_some_iff.mp found).1
    have held := collects.latest number key lastWrites
    rw [List.getElem?_eq_getElem inside] at held
    rw [Std.TreeMap.mem_iff_isSome_getElem?, held]
    rfl

end Collects

section Assigning

variable {gates : List Gate} {records : List (Register lanes)}

/-- As many records as gates are collected. -/
theorem assignItems_of_eq (counted : records.length = gates.length) (read : Nat)
    (cells : CellMap lanes) :
    ∃ last, assignItems read cells (records.map .ok) (gates.map .ok) = .ok last ∧
      Collects gates records cells last := by
  induction gates generalizing records read cells with
  | nil =>
    obtain rfl := List.length_eq_zero_iff.mp counted
    exact ⟨cells, rfl, .nil cells⟩
  | cons gate gates ih =>
    obtain ⟨register, records, rfl⟩ := List.exists_cons_of_length_eq_add_one counted
    obtain ⟨last, assigned, collects⟩ := ih (Nat.succ.inj counted) (read + 1)
      (cells.insert gate.destination.toNat register)
    exact ⟨last, assigned, collects.cons⟩

/-- If there are fewer records than gates, the first gate without one fails, with the error behind
the records if there is one. -/
theorem assignItems_of_lt (short : records.length < gates.length) (read : Nat)
    (cells : CellMap lanes) (ending : Option IoFailure) :
    assignItems read cells (records.map .ok ++ ending.toList.map .error) (gates.map .ok) =
      .error (.trace (ending.getD (.missingRecord (read + records.length)))) := by
  induction records generalizing gates read cells with
  | nil =>
    obtain ⟨gate, gates, rfl⟩ := List.exists_cons_of_length_pos short
    cases ending <;> rfl
  | cons register records ih =>
    obtain ⟨gate, gates, rfl⟩ := List.exists_cons_of_length_pos (Nat.zero_lt_of_lt short)
    rw [List.length_cons, Nat.add_comm records.length, ← Nat.add_assoc]
    exact ih (Nat.lt_of_succ_lt_succ short) (read + 1) _

/-- Anything behind the record of the last gate is a failure. -/
theorem assignItems_of_gt (enough : gates.length ≤ records.length)
    {behind : List (Except IoFailure (Register lanes))}
    (surplus : gates.length < (records.map Except.ok ++ behind).length) (read : Nat)
    (cells : CellMap lanes) :
    assignItems read cells (records.map .ok ++ behind) (gates.map .ok) =
      .error (.trace .surplusRecord) := by
  induction gates generalizing records read cells with
  | nil =>
    obtain ⟨item, items, same⟩ := List.exists_cons_of_length_pos surplus
    rw [same]
    rfl
  | cons gate gates ih =>
    obtain ⟨register, records, rfl⟩ :=
      List.exists_cons_of_length_pos (Nat.zero_lt_of_lt (Nat.lt_of_succ_le enough))
    exact ih (Nat.le_of_succ_le_succ enough) (Nat.lt_of_succ_lt_succ surplus) (read + 1) _

end Assigning

end Trace

namespace Trace

/-- What replaying a circuit of these gates over a source comes to, by the length of the source. -/
structure ByLength (gates : List Gate) (source : ByteSource)
    (replayed : Except RunFailure (CellMap lanes)) : Prop where
  accepted : (∃ cells, replayed = .ok cells) ↔
    source.contents.length = gates.length * lanes.bytes
  keys : ∀ cells, replayed = .ok cells → ∀ key, key ∈ cells ↔
    ∃ gate ∈ gates, gate.destination.toNat = key
  latest : ∀ cells, replayed = .ok cells → ∀ number key, Gate.LastWrites gates number key →
    cells[key]? = (recordsOf lanes source.contents)[number]?
  tooShort : source.contents.length < gates.length * lanes.bytes →
    ∃ cause, replayed = .error (.trace cause) ∧ cause.kind = .unexpectedEnd
  tooLong : gates.length * lanes.bytes < source.contents.length →
    ∃ cause, replayed = .error (.trace cause) ∧ cause.kind = .invalidData

section Cases

variable {gates : List Gate} {source : ByteSource} {replayed : Except RunFailure (CellMap lanes)}

theorem ByLength.of_eq (fits : source.contents.length = gates.length * lanes.bytes)
    {last : CellMap lanes} (succeeded : replayed = .ok last)
    (collects : Collects gates (recordsOf lanes source.contents) ∅ last) :
    ByLength gates source replayed := by
  have counted : (recordsOf lanes source.contents).length = gates.length := by
    rw [length_recordsOf, fits, Nat.mul_div_cancel _ lanes.bytes_pos]
  subst succeeded
  constructor
  case accepted => exact iff_of_true ⟨last, rfl⟩ fits
  case keys =>
    rintro _ ⟨⟩
    exact collects.mem_iff counted
  case latest =>
    rintro _ ⟨⟩
    exact collects.latest
  case tooShort => exact fun short => absurd fits (Nat.ne_of_lt short)
  case tooLong => exact fun long => absurd fits.symm (Nat.ne_of_lt long)

theorem ByLength.of_lt (short : source.contents.length < gates.length * lanes.bytes)
    {cause : IoFailure} (failed : replayed = .error (.trace cause))
    (ended : cause.kind = .unexpectedEnd) : ByLength gates source replayed := by
  subst failed
  constructor
  case accepted => exact iff_of_false nofun (Nat.ne_of_lt short)
  case keys => exact nofun
  case latest => exact nofun
  case tooShort => exact fun _ => ⟨cause, rfl, ended⟩
  case tooLong => exact fun long => absurd long (Nat.lt_asymm short)

theorem ByLength.of_gt (long : gates.length * lanes.bytes < source.contents.length)
    {cause : IoFailure} (failed : replayed = .error (.trace cause))
    (invalid : cause.kind = .invalidData) : ByLength gates source replayed := by
  subst failed
  constructor
  case accepted => exact iff_of_false nofun (Nat.ne_of_gt long)
  case keys => exact nofun
  case latest => exact nofun
  case tooShort => exact fun short => absurd short (Nat.lt_asymm long)
  case tooLong => exact fun _ => ⟨cause, rfl, invalid⟩

end Cases

end Trace

/-- A sound circuit replays a source by its length: the records that stand whole in the source are
too few, as many as the gates with nothing behind them, or followed by something. -/
theorem Circuit.Sound.replay_byLength {circuit : Circuit lanes} {gates : List Gate}
    (sound : circuit.Sound gates) {source : ByteSource} (ended : source.failure = none) :
    Trace.ByLength gates source (Trace.replay circuit source) := by
  have replayed := Trace.replay_eq circuit source
  rw [Trace.replayItems, Trace.items_eq ended, sound.decoded] at replayed
  have counted := Trace.length_recordsOf lanes source.contents
  rcases Nat.lt_trichotomy source.contents.length (gates.length * lanes.bytes) with
    short | fits | long
  · have fewer : (Trace.recordsOf lanes source.contents).length < gates.length := by
      rw [counted]
      exact (Nat.div_lt_iff_lt_mul lanes.bytes_pos).mpr short
    rw [Trace.assignItems_of_lt fewer] at replayed
    refine .of_lt short replayed ?_
    unfold Trace.leftover
    split <;> rfl
  · have enough : (Trace.recordsOf lanes source.contents).length = gates.length := by
      rw [counted, fits, Nat.mul_div_cancel _ lanes.bytes_pos]
    have exactly : Trace.leftover lanes source.contents = none := by
      rw [Trace.leftover, fits, Nat.mul_mod_left, if_pos rfl]
    obtain ⟨last, assigned, collects⟩ := Trace.assignItems_of_eq enough 0 ∅
    rw [exactly, Option.toList_none, List.map_nil, List.append_nil, assigned] at replayed
    exact .of_eq fits replayed collects
  · have enough : gates.length ≤ (Trace.recordsOf lanes source.contents).length := by
      rw [counted]
      exact (Nat.le_div_iff_mul_le lanes.bytes_pos).mpr (Nat.le_of_lt long)
    have surplus : gates.length <
        ((Trace.recordsOf lanes source.contents).map Except.ok ++
          (Trace.leftover lanes source.contents).toList.map Except.error).length := by
      rw [List.length_append, List.length_map, List.length_map]
      by_cases whole : source.contents.length % lanes.bytes = 0
      · -- The remainder is nothing, so the surplus is a record.
        have parts := Nat.div_add_mod source.contents.length lanes.bytes
        have more : gates.length < source.contents.length / lanes.bytes := by
          apply Nat.lt_of_mul_lt_mul_left (a := lanes.bytes)
          rw [Nat.mul_comm]
          omega
        rw [counted]
        exact Nat.lt_add_right _ more
      · rw [Trace.leftover, if_neg whole]
        exact Nat.lt_succ_of_le enough
    rw [Trace.assignItems_of_gt enough surplus] at replayed
    exact .of_gt long replayed rfl

/-- A reliable sink takes the records of any trace. -/
theorem StoredTrace.feed_of_reliable {W : Type} [ByteSink W] {sink : W}
    (reliable : ByteSink.Reliable sink) (registers : List (Register lanes)) :
    ∃ fed, Recorder.feed (StoredTrace.start lanes sink) registers = (.ok (), fed) := by
  have kept : (Recorder.keep (StoredTrace.start lanes sink) registers).1 = .ok () :=
    StoredTrace.reliable reliable registers
  obtain ⟨fed, complete, -⟩ := Recorder.keep_eq_ok_iff.mp (Prod.ext kept rfl)
  exact ⟨fed, complete⟩

/-- Stored traces are accepted by length alone. From any bytes, successive requests get as many
records as stand whole in them, then one unexpected end exactly if bytes are left over, and nothing
from then on. Registers that were written into an empty sink, as they are into any that is
reliable, are read back from what it holds. And whatever has been called on a loaded circuit
before, it replays any bytes by their length: exactly one record for each of its gates succeeds,
with the cells that the gates write and for each the record of the last gate that writes it; fewer
bytes end unexpectedly, and more are invalid. -/
theorem stored_traces_are_accepted_by_length (lanes : Lanes) :
    (∀ source : ByteSource, source.failure = none →
      (Trace.recordsOf lanes source.contents).length = source.contents.length / lanes.bytes ∧
        (Trace.leftover lanes source.contents).map IoFailure.kind =
          (if source.contents.length % lanes.bytes = 0 then none else some .unexpectedEnd) ∧
        ∀ count, Trace.answers lanes count source = (List.range count).map fun request =>
          ((Trace.recordsOf lanes source.contents).map Except.ok ++
            (Trace.leftover lanes source.contents).toList.map Except.error)[request]?) ∧
      (∀ (W : Type) [StoringSink W] (sink : W) (registers : List (Register lanes)),
        StoringSink.contents sink = [] →
        (ByteSink.Reliable sink →
          ∃ fed, Recorder.feed (StoredTrace.start lanes sink) registers = (.ok (), fed)) ∧
        ∀ fed, Recorder.feed (StoredTrace.start lanes sink) registers = (.ok (), fed) →
          ∀ source : ByteSource, source.contents = StoringSink.contents fed.sink →
            source.failure = none →
          ∀ count, Trace.answers lanes count source = (List.range count).map fun request =>
            (registers.map Except.ok)[request]?) ∧
      ∀ (reservation : Reservation) (length : Option UInt64) (descriptor : ByteSource)
        (circuit : Circuit lanes),
        Circuit.read lanes reservation length descriptor = .ok circuit →
        ∃ gates : List Gate, circuit.gates = gates.map .ok ∧
          gates.length = circuit.header.gateCount.toNat ∧
          ∀ later, circuit.Reaches later → ∀ source : ByteSource, source.failure = none →
            Trace.ByLength gates source (Trace.replay later source) := by
  refine ⟨?_, ?_, ?_⟩
  · intro source ended
    refine ⟨Trace.length_recordsOf lanes _, Trace.kind_leftover lanes _, ?_⟩
    intro count
    rw [Trace.answers_eq ended, Trace.items_eq ended]
  · intro W _ sink registers empty
    refine ⟨fun reliable => StoredTrace.feed_of_reliable reliable registers, ?_⟩
    intro fed complete source held ended count
    have whole : source.contents = Trace.stored registers := by
      rw [held, StoredTrace.contents_of_feed complete, StoredTrace.start, empty, List.nil_append]
    rw [Trace.answers_eq ended, Trace.items_stored whole ended]
  · intro reservation length descriptor circuit loaded
    obtain ⟨gates, sound⟩ := (Circuit.accepted_of_read loaded).sound
    refine ⟨gates, sound.decoded, sound.gatesCounted, ?_⟩
    intro later reached source ended
    exact (sound.of_sameProgram (sound.sameProgram_of_reaches reached)).replay_byLength ended

namespace Circuit

/-- The bytes of a circuit that inverts its only input and then inverts the result in its place, in
the fixed layout. -/
def doubleInverter : Bytes :=
  [1, 0, 0, 0, 0, 0, 0, 0] ++ [1, 0, 0, 0, 0, 0, 0, 0] ++ [2, 0, 0, 0, 0, 0, 0, 0] ++
    [10, 0, 0, 0, 0, 0, 0, 0] ++ [2, 0, 0, 0, 0, 0, 0, 0] ++ [0, 0] ++ [1, 0] ++
    ([4, 0, 0, 1, 0] ++ [4, 1, 0, 1, 0])

/-- The circuit, loaded. -/
def doubleInverterLoaded (lanes : Lanes) : Circuit lanes :=
  ⟨⟨1, 1, 2, 10, 2, Widths.fixed⟩, [0], [1], [4, 0, 0, 1, 0, 4, 1, 0, 1, 0], #[0, 0]⟩

theorem read_doubleInverter (lanes : Lanes) :
    read lanes Reservation.standard none (ByteSource.ofBytes doubleInverter) =
      .ok (doubleInverterLoaded lanes) := by
  cases lanes <;> cbv

theorem gates_doubleInverterLoaded (lanes : Lanes) :
    (doubleInverterLoaded lanes).gates = [⟨.not, 0, 0, 1⟩, ⟨.not, 1, 0, 1⟩].map .ok := by
  cbv

end Circuit

/-- The double inverter replays four bytes as two records of sixteen lanes, and the cell that both
gates write gets the second. It replays neither three bytes nor five. -/
theorem doubleInverter_replays_four_bytes :
    (let circuit := Circuit.doubleInverterLoaded .sixteen
    Circuit.read .sixteen Reservation.standard none (ByteSource.ofBytes Circuit.doubleInverter) =
        .ok circuit ∧
      (∃ cells, Trace.replay circuit (ByteSource.ofBytes [1, 2, 3, 4]) = .ok cells ∧
        cells[1]? = some 1027 ∧ 0 ∉ cells) ∧
      (∃ cause, Trace.replay circuit (ByteSource.ofBytes [1, 2, 3]) = .error (.trace cause) ∧
        cause.kind = .unexpectedEnd) ∧
      ∃ cause, Trace.replay circuit (ByteSource.ofBytes [1, 2, 3, 4, 5]) =
        .error (.trace cause) ∧ cause.kind = .invalidData) ∧
      Trace.answers .sixteen 3 (ByteSource.ofBytes [1, 2, 3]) =
        [some (.ok 513), some (.error .partialRecord), none] ∧
      ∃ fed, Recorder.feed (StoredTrace.start .sixteen BoundedBuffer.unbounded) [513] =
          (.ok (), fed) ∧
        Trace.answers .sixteen 2 (ByteSource.ofBytes fed.sink.stored.toList) =
          [some (.ok 513), none] := by
  obtain ⟨answered, readBack, replays⟩ := stored_traces_are_accepted_by_length .sixteen
  refine ⟨⟨Circuit.read_doubleInverter .sixteen, ?_⟩, ?_, ?_⟩
  · obtain ⟨gates, decoded, -, byLength⟩ := replays _ _ _ _ (Circuit.read_doubleInverter .sixteen)
    obtain rfl : gates = [⟨.not, 0, 0, 1⟩, ⟨.not, 1, 0, 1⟩] :=
      (List.map_inj_right fun _ _ => Except.ok.inj).mp
        (decoded.symm.trans (Circuit.gates_doubleInverterLoaded .sixteen))
    refine ⟨?_, (byLength _ .refl _ rfl).tooShort (by decide),
      (byLength _ .refl _ rfl).tooLong (by decide)⟩
    have replayed := byLength _ .refl (ByteSource.ofBytes [1, 2, 3, 4]) rfl
    obtain ⟨cells, succeeded⟩ := replayed.accepted.mpr rfl
    -- Both gates write the cell, so the first one is not the last.
    have last : Gate.LastWrites [⟨.not, 0, 0, 1⟩, ⟨.not, 1, 0, 1⟩] 1 1 := by
      rw [Gate.lastWrites_succ_iff]
      refine ⟨⟨_, rfl, rfl⟩, ?_⟩
      rintro (_ | later) gate behind found
      · cases behind
      · cases found
    refine ⟨cells, succeeded, replayed.latest cells succeeded 1 1 last, ?_⟩
    intro present
    obtain ⟨gate, member, same⟩ := (replayed.keys cells succeeded 0).mp present
    have elsewhere : ∀ gate ∈ [(⟨.not, 0, 0, 1⟩ : Gate), ⟨.not, 1, 0, 1⟩],
        gate.destination.toNat ≠ 0 := by decide
    exact elsewhere gate member same
  · obtain ⟨-, -, requests⟩ := answered (ByteSource.ofBytes [1, 2, 3]) rfl
    exact requests 3
  · obtain ⟨reliable, reads⟩ := readBack BoundedBuffer BoundedBuffer.unbounded [513] rfl
    obtain ⟨fed, complete⟩ := reliable ByteSink.reliable_unbounded
    refine ⟨fed, complete, ?_⟩
    exact reads fed complete _ (ByteSource.contents_ofBytes _) (ByteSource.failure_ofBytes _) 2

end Bitslice
