import Bitslice.Proofs.Loading
import Bitslice.Proofs.Recording
import Bitslice.Trace.Reader

/-!
# Traces are stored and read back

`Trace.stored` is the stored form of a trace. It is what a stored trace adds to
its sink, and reading it back gives the records again, however the bytes are
delivered.
-/

namespace Bitslice

variable {lanes : Lanes}

/-- A sink that shows what it holds: a write puts its bytes behind the others, and a flush adds
nothing. What a failure leaves behind is not said. -/
class StoringSink (W : Type) extends ByteSink W where
  /-- What the sink holds. -/
  contents : W → Bytes
  contents_write : ∀ {sink later : W} {bytes : Bytes},
    ByteSink.write sink bytes = (.ok (), later) → contents later = contents sink ++ bytes
  contents_flush : ∀ {sink later : W},
    ByteSink.flush sink = (.ok (), later) → contents later = contents sink

instance : StoringSink BoundedBuffer where
  contents buffer := buffer.stored.toList
  contents_write := by
    intro buffer later bytes written
    change buffer.write bytes = (.ok (), later) at written
    unfold BoundedBuffer.write at written
    split at written
    · obtain rfl := (Prod.mk.inj written).2
      simp
    · next limit limited =>
      obtain ⟨took, rfl⟩ := Prod.mk.inj written
      split at took
      · next room => simp [List.take_of_length_le room]
      · cases took
  contents_flush := by
    intro buffer later flushed
    obtain rfl := (Prod.mk.inj flushed).2
    rfl

namespace ByteSink

variable {W : Type} [ByteSink W]

/-- The sink takes whatever it is given, now and later. -/
def Reliable (sink : W) : Prop :=
  ∃ Good : W → Prop, Good sink ∧ ∀ current, Good current →
    (∀ bytes, ∃ later, write current bytes = (.ok (), later) ∧ Good later) ∧
      ∃ later, flush current = (.ok (), later) ∧ Good later

theorem Reliable.write {sink : W} (reliable : Reliable sink) (bytes : Bytes) :
    ∃ later, ByteSink.write sink bytes = (.ok (), later) ∧ Reliable later := by
  obtain ⟨Good, good, keeps⟩ := reliable
  obtain ⟨later, written, goodLater⟩ := (keeps sink good).1 bytes
  exact ⟨later, written, Good, goodLater, keeps⟩

theorem Reliable.flush {sink : W} (reliable : Reliable sink) :
    ∃ later, ByteSink.flush sink = (.ok (), later) ∧ Reliable later := by
  obtain ⟨Good, good, keeps⟩ := reliable
  obtain ⟨later, flushed, goodLater⟩ := (keeps sink good).2
  exact ⟨later, flushed, Good, goodLater, keeps⟩

theorem reliable_unbounded : Reliable BoundedBuffer.unbounded := by
  refine ⟨fun buffer => buffer.limit = none ∧ buffer.flushFails = false, ⟨rfl, rfl⟩, ?_⟩
  rintro ⟨stored, limit, flushFails⟩ ⟨rfl, rfl⟩
  exact ⟨fun bytes => ⟨_, rfl, rfl, rfl⟩, _, rfl, rfl, rfl⟩

end ByteSink

namespace Register

/-- A stored register is read back. -/
theorem decode_encode (register : Register lanes) : decode lanes register.encode = register := by
  have room : 2 ^ lanes.count ≤ Field.capacity lanes.bytes := by
    cases lanes <;> decide
  have fits : register.toNat < Field.capacity lanes.bytes := Nat.lt_of_lt_of_le register.isLt room
  rw [decode, encode, Field.value_digits fits, BitVec.ofNat_toNat, BitVec.setWidth_eq]

end Register

namespace Trace

/-- The stored form of a trace: its records one after the other. -/
def stored (trace : List (Register lanes)) : Bytes :=
  trace.flatMap Register.encode

theorem stored_cons (register : Register lanes) (later : List (Register lanes)) :
    stored (register :: later) = register.encode ++ stored later :=
  rfl

end Trace

section Writing

namespace StoredTrace

section Steps

variable {W : Type} [ByteSink W] {recorder : StoredTrace lanes W} {register : Register lanes}
  {sink : W}

theorem record_of_write (written : ByteSink.write recorder.sink register.encode = (.ok (), sink)) :
    Recorder.record recorder register = (.ok (), ⟨sink, recorder.written + 1⟩) := by
  simp only [Recorder.record, written]

theorem record_of_refusal {cause : IoFailure}
    (refused : ByteSink.write recorder.sink register.encode = (.error cause, sink)) :
    Recorder.record recorder register = (.error cause, { recorder with sink := sink }) := by
  simp only [Recorder.record, refused]

/-- A trace that goes to a reliable sink never fails. -/
theorem reliable (reliable : ByteSink.Reliable recorder.sink) : Recorder.Reliable recorder := by
  intro trace
  induction trace generalizing recorder with
  | nil =>
    obtain ⟨later, flushed, -⟩ := reliable.flush
    rw [Recorder.keep_nil]
    simp only [Recorder.finish, flushed]
  | cons register later ih =>
    obtain ⟨sink, written, reliableLater⟩ := reliable.write register.encode
    rw [Recorder.keep_cons_of_ok (record_of_write written)]
    exact ih reliableLater

end Steps

variable {W : Type} [StoringSink W]

theorem contents_of_feed {recorder fed : StoredTrace lanes W} {trace : List (Register lanes)}
    (complete : Recorder.feed recorder trace = (.ok (), fed)) :
    StoringSink.contents fed.sink = StoringSink.contents recorder.sink ++ Trace.stored trace := by
  induction trace generalizing recorder with
  | nil =>
    obtain rfl := (Prod.mk.inj complete).2
    exact (List.append_nil _).symm
  | cons register later ih =>
    match written : ByteSink.write recorder.sink register.encode with
    | (.error cause, sink) =>
      rw [Recorder.feed, record_of_refusal written] at complete
      cases (Prod.mk.inj complete).1
    | (.ok (), sink) =>
      rw [Recorder.feed, record_of_write written] at complete
      rw [ih complete, StoringSink.contents_write written, List.append_assoc, Trace.stored_cons]

/-- A trace that was kept whole stands behind what the sink held before. -/
theorem contents_of_keep {recorder kept : StoredTrace lanes W} {trace : List (Register lanes)}
    (keeps : Recorder.keep recorder trace = (.ok (), kept)) :
    StoringSink.contents kept.sink = StoringSink.contents recorder.sink ++ Trace.stored trace := by
  obtain ⟨fed, complete, finished⟩ := Recorder.keep_eq_ok_iff.mp keeps
  rw [← contents_of_feed complete]
  obtain ⟨flushed, rfl⟩ := Prod.mk.inj finished
  exact StoringSink.contents_flush (Prod.ext flushed rfl)

end StoredTrace

end Writing

namespace Trace

variable {source : ByteSource}

/-- The next record of a source that goes on with one. -/
theorem next?_of_append {register : Register lanes} {rest : Bytes}
    (whole : source.contents = register.encode ++ rest) :
    ∃ later, next? lanes source = (some (.ok register), later) ∧ later.contents = rest ∧
      later.failure = source.failure := by
  obtain ⟨later, filled, delivered⟩ := Circuit.fill_of_append whole
  rw [Register.length_encode] at filled
  refine ⟨later, ?_, delivered.contents_eq whole, delivered.failure⟩
  rw [next?, filled]
  simp only [Register.decode_encode]

/-- A source that has come to a good end has no further record. -/
theorem next?_of_end (lanes : Lanes) (empty : source.contents = [])
    (sound : source.failure = none) :
    ∃ later, next? lanes source = (none, later) := by
  have answer := ByteSource.fill_eq_outcome lanes.bytes source
  have missing : ¬lanes.bytes ≤ ([] : Bytes).length := Nat.not_le_of_lt lanes.bytes_pos
  rw [empty, sound, Filled.ofContents, if_neg missing] at answer
  refine ⟨(source.fill lanes.bytes).2, ?_⟩
  have filled : source.fill lanes.bytes = (.short [], (source.fill lanes.bytes).2) :=
    Prod.ext answer rfl
  rw [next?, filled]

section Reading

variable {later : ByteSource} {collected : Array (Register lanes)} {register : Register lanes}
  {cause : IoFailure}

theorem readFrom_of_end (answered : next? lanes source = (none, later)) :
    readFrom collected source = ⟨collected.toList, none, later⟩ := by
  rw [readFrom]
  split
  · next found => cases answered.symm.trans found; rfl
  · next found => cases answered.symm.trans found
  · next found => cases answered.symm.trans found

theorem readFrom_of_failure (answered : next? lanes source = (some (.error cause), later)) :
    readFrom collected source = ⟨collected.toList, some cause, later⟩ := by
  rw [readFrom]
  split
  · next found => cases answered.symm.trans found
  · next found => cases answered.symm.trans found; rfl
  · next found => cases answered.symm.trans found

theorem readFrom_of_record (answered : next? lanes source = (some (.ok register), later)) :
    readFrom collected source = readFrom (collected.push register) later := by
  rw [readFrom]
  split
  · next found => cases answered.symm.trans found
  · next found => cases answered.symm.trans found
  · next found => cases answered.symm.trans found; rfl

/-- What has been collected before stays in front and changes nothing behind it. -/
theorem readFrom_eq : readFrom collected source =
    { read lanes source with records := collected.toList ++ (read lanes source).records } := by
  unfold read
  induction sizes : source.size using Nat.strongRecOn generalizing source collected with
  | ind size ih =>
    subst sizes
    match answered : next? lanes source with
    | (none, later) => simp [readFrom_of_end answered]
    | (some (.error cause), later) => simp [readFrom_of_failure answered]
    | (some (.ok register), later) =>
      have rest : ∀ front : Array (Register lanes), readFrom front later = _ :=
        fun front => ih later.size (size_of_next? answered) rfl
      rw [readFrom_of_record answered, readFrom_of_record answered, rest, rest (Array.push #[] _)]
      simp

/-- Everything that a source yields as a trace: its records, and last the error if there is one. -/
def items (lanes : Lanes) (source : ByteSource) : List (Except IoFailure (Register lanes)) :=
  (read lanes source).records.map .ok ++ (read lanes source).failure.toList.map .error

theorem items_of_end (answered : next? lanes source = (none, later)) : items lanes source = [] := by
  rw [items, read, readFrom_of_end answered]
  rfl

theorem items_of_failure (answered : next? lanes source = (some (.error cause), later)) :
    items lanes source = [.error cause] := by
  rw [items, read, readFrom_of_failure answered]
  rfl

theorem items_of_record (answered : next? lanes source = (some (.ok register), later)) :
    items lanes source = .ok register :: items lanes later := by
  rw [items, read, readFrom_of_record answered, readFrom_eq]
  rfl

end Reading

/-- A source that serves a stored trace to a good end is read as that trace. -/
theorem read_stored {trace : List (Register lanes)} (whole : source.contents = stored trace)
    (sound : source.failure = none) :
    (read lanes source).records = trace ∧ (read lanes source).failure = none := by
  induction trace generalizing source with
  | nil =>
    obtain ⟨later, answered⟩ := next?_of_end lanes whole sound
    rw [read, readFrom_of_end answered]
    exact ⟨rfl, rfl⟩
  | cons register trace ih =>
    obtain ⟨later, answered, rest, ending⟩ := next?_of_append whole
    obtain ⟨records, failure⟩ := ih rest (ending.trans sound)
    rw [read, readFrom_of_record answered, readFrom_eq]
    exact ⟨congrArg (register :: ·) records, failure⟩

theorem items_stored {trace : List (Register lanes)} (whole : source.contents = stored trace)
    (sound : source.failure = none) : items lanes source = trace.map .ok := by
  obtain ⟨records, failure⟩ := read_stored whole sound
  rw [items, records, failure]
  exact List.append_nil _

end Trace

/-- A run that succeeds has stored the trace of the computation. -/
theorem Circuit.Sound.stored_of_run {circuit : Circuit lanes} {gates : List Gate}
    {inputs outputs : Bytes} {batch : Nat} {generator : Generator} (sound : circuit.Sound gates)
    {W : Type} [StoringSink W] {sink : W} (empty : StoringSink.contents sink = [])
    (succeeded : (circuit.run inputs outputs (StoredTrace.start lanes sink) batch
      generator).result = .ok ()) :
    StoringSink.contents (circuit.run inputs outputs (StoredTrace.start lanes sink) batch
        generator).recorder.sink =
      Trace.stored (circuit.computation gates inputs batch generator).trace := by
  obtain ⟨-, keeps⟩ := sound.keep_of_run succeeded
  rw [StoredTrace.contents_of_keep keeps, StoredTrace.start, empty, List.nil_append]

end Bitslice
