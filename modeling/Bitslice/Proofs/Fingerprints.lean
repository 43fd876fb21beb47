import Bitslice.Proofs.StoredTraces
import Bitslice.Trace.Hashed

/-!
# Fingerprints match what was stored

A recorder that has refused something may be told more (`Recorder.tell`). A
hashed trace answers every time as the recorder behind it does, and hashes and
counts what that one accepts. In front of a buffer that runs full this is
exactly what stands whole in the buffer (`HashedTrace.Matches`).
-/

namespace Bitslice

variable {lanes : Lanes}

namespace Recorder

/-- What a recorder can be told. -/
inductive Request (lanes : Lanes) where
  | record (register : Register lanes)
  | finish

section Telling

variable {R : Type} [Recorder lanes R]

/-- Tells a recorder one thing. -/
def ask (recorder : R) : Request lanes → Except IoFailure Unit × R
  | .record register => record recorder register
  | .finish => finish recorder

/-- Tells a recorder one thing after the other, whatever it answers, and collects the answers. -/
def tell (recorder : R) : List (Request lanes) → List (Except IoFailure Unit) × R
  | [] => ([], recorder)
  | request :: later =>
    let answered := ask recorder request
    let told := tell answered.2 later
    (answered.1 :: told.1, told.2)

end Telling

/-- The registers that were answered with success, in order. -/
def accepted : List (Request lanes) → List (Except IoFailure Unit) → List (Register lanes)
  | .record register :: requests, .ok () :: answers => register :: accepted requests answers
  | _ :: requests, _ :: answers => accepted requests answers
  | _, _ => []

theorem accepted_append_replicate (registers : List (Register lanes)) (count others : Nat)
    (cause : IoFailure) :
    accepted (registers.map .record)
        (List.replicate count (.ok ()) ++ List.replicate others (.error cause)) =
      registers.take count := by
  induction registers generalizing count others with
  | nil => simp [accepted]
  | cons register registers ih =>
    cases count with
    | succ count =>
      rw [List.replicate_succ, List.cons_append, List.map_cons, accepted, ih, List.take_succ_cons]
    | zero =>
      cases others with
      | zero => rfl
      | succ others => exact ih 0 others

end Recorder

namespace Trace

theorem length_stored (trace : List (Register lanes)) :
    (stored trace).length = trace.length * lanes.bytes := by
  induction trace with
  | nil => exact (Nat.zero_mul _).symm
  | cons register trace ih =>
    rw [stored_cons, List.length_append, Register.length_encode, ih, List.length_cons, Nat.succ_mul,
      Nat.add_comm]

/-- The stored form of a trace is cut between two records. -/
theorem stored_append (first second : List (Register lanes)) :
    stored (first ++ second) = stored first ++ stored second :=
  List.flatMap_append

theorem take_stored (trace : List (Register lanes)) {count : Nat} (inside : count ≤ trace.length) :
    (stored trace).take (count * lanes.bytes) = stored (trace.take count) := by
  have sized : (stored (trace.take count)).length = count * lanes.bytes := by
    rw [length_stored, List.length_take_of_le inside]
  conv => lhs; rw [← List.take_append_drop count trace, stored_append]
  exact List.take_left' sized

theorem drop_stored (trace : List (Register lanes)) {count : Nat} (inside : count ≤ trace.length) :
    (stored trace).drop (count * lanes.bytes) = stored (trace.drop count) := by
  have sized : (stored (trace.take count)).length = count * lanes.bytes := by
    rw [length_stored, List.length_take_of_le inside]
  conv => lhs; rw [← List.take_append_drop count trace, stored_append]
  exact List.drop_left' sized

end Trace

namespace HashedTrace

section Behind

variable {R : Type} [Recorder lanes R]

/-- A hashed trace answers as the recorder behind it, and adds what that one has accepted to what
it has hashed and counted before. -/
theorem tell_eq (trace : HashedTrace R) (requests : List (Recorder.Request lanes)) :
    (Recorder.tell trace requests).1 = (Recorder.tell trace.inner requests).1 ∧
      (Recorder.tell trace requests).2.inner = (Recorder.tell trace.inner requests).2 ∧
      (Recorder.tell trace requests).2.accepted = trace.accepted +
        (Recorder.accepted requests (Recorder.tell trace.inner requests).1).length ∧
      (Recorder.tell trace requests).2.hashed.toList = trace.hashed.toList ++
        Trace.stored (Recorder.accepted requests (Recorder.tell trace.inner requests).1) := by
  induction requests generalizing trace with
  | nil => exact ⟨rfl, rfl, rfl, (List.append_nil _).symm⟩
  | cons request requests ih =>
    cases request with
    | finish =>
      obtain ⟨answers, inner, accepted, hashed⟩ :=
        ih { trace with inner := (Recorder.finish trace.inner).2 }
      exact ⟨congrArg (_ :: ·) answers, inner, accepted, hashed⟩
    | record register =>
      rcases took : Recorder.record trace.inner register with ⟨cause | ⟨⟩, next⟩
      · have plain : Recorder.ask trace.inner (.record register) = (.error cause, next) := took
        have step : Recorder.ask trace (.record register) =
            (.error cause, { trace with inner := next }) := by
          simp only [Recorder.ask, Recorder.record, took]
        obtain ⟨answers, inner, accepted, hashed⟩ := ih { trace with inner := next }
        simp only [Recorder.tell, step, plain]
        exact ⟨congrArg (_ :: ·) answers, inner, accepted, hashed⟩
      · have plain : Recorder.ask trace.inner (.record register) = (.ok (), next) := took
        have step : Recorder.ask trace (.record register) =
            (.ok (), ⟨next, trace.hashed ++ register.encode, trace.accepted + 1⟩) := by
          simp only [Recorder.ask, Recorder.record, took]
        obtain ⟨answers, inner, accepted, hashed⟩ :=
          ih ⟨next, trace.hashed ++ register.encode, trace.accepted + 1⟩
        simp only [Recorder.tell, step, plain, Recorder.accepted]
        refine ⟨congrArg (_ :: ·) answers, inner, ?_, ?_⟩
        · rw [accepted, List.length_cons, Nat.add_assoc, Nat.add_comm 1]
        · rw [hashed, Trace.stored_cons, Array.toList_appendList, List.append_assoc]

end Behind

end HashedTrace

namespace StoredTrace

/-- What a buffer answers when it has no room for all the bytes. -/
def full : IoFailure :=
  .device .other "disk full"

section Bounded

variable (limit : Nat) (flushFails : Bool)

/-- One record: it is written whole if the buffer has room for it, and else as far as it fits. -/
theorem record_bounded (stored : Array UInt8) (written : Nat) (register : Register lanes) :
    Recorder.record (⟨⟨stored, some limit, flushFails⟩, written⟩ :
        StoredTrace lanes BoundedBuffer) register =
      if lanes.bytes ≤ limit - stored.size then
        (.ok (), ⟨⟨stored ++ register.encode, some limit, flushFails⟩, written + 1⟩)
      else
        (.error full,
          ⟨⟨stored ++ register.encode.take (limit - stored.size), some limit, flushFails⟩,
            written⟩) := by
  have sized := register.length_encode
  split
  · next room =>
    apply record_of_write
    simp only [ByteSink.write, BoundedBuffer.write, sized, if_pos room]
    rw [List.take_of_length_le (Nat.le_trans (Nat.le_of_eq sized) room)]
  · next room =>
    apply record_of_refusal
    simp only [ByteSink.write, BoundedBuffer.write, sized, if_neg room]
    rfl

/-- The number of records that have room whole, out of a number of records. -/
def fitting (lanes : Lanes) (room records : Nat) : Nat :=
  min records (room / lanes.bytes)

theorem fitting_succ_of_le {room : Nat} (enough : lanes.bytes ≤ room) (records : Nat) :
    fitting lanes room (records + 1) = fitting lanes (room - lanes.bytes) records + 1 := by
  rw [fitting, Nat.div_eq_sub_div lanes.bytes_pos enough, Nat.add_min_add_right, fitting]

theorem fitting_of_lt {room : Nat} (short : room < lanes.bytes) (records : Nat) :
    fitting lanes room records = 0 := by
  rw [fitting, Nat.div_eq_of_lt short, Nat.min_zero]

theorem fitting_le (lanes : Lanes) (room records : Nat) : fitting lanes room records ≤ records :=
  Nat.min_le_left _ _

theorem lt_fitting_iff {room records number : Nat} (inside : number < records) :
    number < fitting lanes room records ↔ (number + 1) * lanes.bytes ≤ room := by
  rw [← Nat.le_div_iff_mul_le lanes.bytes_pos, fitting, Nat.lt_min]
  exact and_iff_right inside

theorem fitting_mul_le (lanes : Lanes) (room records : Nat) :
    fitting lanes room records * lanes.bytes ≤ room :=
  (Nat.le_div_iff_mul_le lanes.bytes_pos).mp (Nat.min_le_right _ _)

/-- Where a record is left, the rest of the room is too small for it. -/
theorem sub_fitting_lt {room records : Nat} (left : fitting lanes room records < records) :
    room - fitting lanes room records * lanes.bytes < lanes.bytes := by
  have unfit := mt (lt_fitting_iff left).mpr (Nat.lt_irrefl _)
  have positive := lanes.bytes_pos
  rw [Nat.succ_mul] at unfit
  omega

/-- All records: the buffer holds as much of their stored form as it has room for. The records that
have room whole are written, and all others fail. The induction is on the records; one that does
not fit leaves no room for the next. -/
theorem tell_bounded (stored : Array UInt8) (written : Nat) (registers : List (Register lanes)) :
    ∃ later : Array UInt8,
      later.toList = stored.toList ++ (Trace.stored registers).take (limit - stored.size) ∧
      Recorder.tell (⟨⟨stored, some limit, flushFails⟩, written⟩ : StoredTrace lanes BoundedBuffer)
          (registers.map .record) =
        (List.replicate (fitting lanes (limit - stored.size) registers.length) (.ok ()) ++
            List.replicate (registers.length -
              fitting lanes (limit - stored.size) registers.length) (.error full),
          ⟨⟨later, some limit, flushFails⟩,
            written + fitting lanes (limit - stored.size) registers.length⟩) := by
  induction registers generalizing stored written with
  | nil =>
    refine ⟨stored, ?_, ?_⟩
    · rw [Trace.stored, List.flatMap_nil, List.take_nil, List.append_nil]
    · rw [List.length_nil, fitting, Nat.zero_min]
      rfl
  | cons register registers ih =>
    have asked := record_bounded limit flushFails stored written register
    have sized := register.length_encode
    have grown : ∀ bytes : Bytes, (stored ++ bytes).size = stored.size + bytes.length := by
      intro bytes
      rw [← Array.length_toList, Array.toList_appendList, List.length_append, Array.length_toList]
    by_cases room : lanes.bytes ≤ limit - stored.size
    · rw [if_pos room] at asked
      obtain ⟨later, holds, told⟩ := ih (stored ++ register.encode) (written + 1)
      rw [grown, sized, Nat.sub_add_eq] at holds told
      refine ⟨later, ?_, ?_⟩
      · rw [holds, Trace.stored_cons, Array.toList_appendList, List.take_append,
          List.take_of_length_le (Nat.le_trans (Nat.le_of_eq sized) room), sized, List.append_assoc]
      · simp only [List.map_cons, Recorder.tell, Recorder.ask, asked, told]
        rw [List.length_cons, fitting_succ_of_le room, List.replicate_succ, List.cons_append,
          Nat.add_sub_add_right, Nat.add_assoc, Nat.add_comm 1]
    · rw [if_neg room] at asked
      have less : limit - stored.size < lanes.bytes := Nat.lt_of_not_le room
      obtain ⟨later, holds, told⟩ :=
        ih (stored ++ register.encode.take (limit - stored.size)) written
      have used : limit - (stored.size + (limit - stored.size)) = 0 := by omega
      rw [grown, List.length_take_of_le (sized ▸ Nat.le_of_lt less), used] at holds told
      refine ⟨later, ?_, ?_⟩
      · rw [holds, List.take_zero, List.append_nil, Array.toList_appendList, Trace.stored_cons,
          List.take_append_of_le_length (sized ▸ Nat.le_of_lt less)]
      · simp only [List.map_cons, Recorder.tell, Recorder.ask, asked, told]
        rw [List.length_cons, fitting_of_lt less, fitting_of_lt lanes.bytes_pos]
        rfl

/-- An empty buffer at the start. -/
theorem tell_start (registers : List (Register lanes)) :
    ∃ later : Array UInt8, later.toList = (Trace.stored registers).take limit ∧
      Recorder.tell (start lanes (⟨#[], some limit, flushFails⟩ : BoundedBuffer))
          (registers.map .record) =
        (List.replicate (fitting lanes limit registers.length) (.ok ()) ++
            List.replicate (registers.length - fitting lanes limit registers.length) (.error full),
          ⟨⟨later, some limit, flushFails⟩, fitting lanes limit registers.length⟩) := by
  obtain ⟨later, holds, told⟩ := tell_bounded limit flushFails #[] 0 registers
  rw [List.size_toArray, List.length_nil, Nat.sub_zero] at holds told
  rw [Nat.zero_add] at told
  exact ⟨later, holds, told⟩

example : (Recorder.tell (start .sixteen (⟨#[], some 3, false⟩ : BoundedBuffer))
    [.record 1, .record 2, .record 3]).1 = [.ok (), .error full, .error full] := rfl

end Bounded

end StoredTrace

/-- Successes before failures stand where their number says. -/
theorem getElem?_answers (count others number : Nat) (cause : IoFailure) :
    (List.replicate count (Except.ok ()) ++ List.replicate others (Except.error cause))[number]? =
      some (.ok ()) ↔ number < count := by
  rw [List.getElem?_append, List.length_replicate, List.getElem?_replicate,
    List.getElem?_replicate]
  by_cases before : number < count
  · simp [before]
  · simp [before]

namespace HashedTrace

/-- What a hashed trace in front of an empty buffer of this limit shows after it was given these
registers and gave these answers: how many succeeded, and what the buffer holds. -/
structure Matches (limit : Nat) (registers : List (Register lanes))
    (answers : List (Except IoFailure Unit)) (trace : HashedTrace (StoredTrace lanes BoundedBuffer))
    (count : Nat) (held : Bytes) : Prop where
  succeeded : answers.countP Except.isOk = count
  answered : ∀ number < registers.length,
    answers[number]? = some (.ok ()) ↔ (number + 1) * lanes.bytes ≤ limit
  accepted : trace.accepted = count
  written : trace.inner.written = count
  stored : trace.inner.sink.stored.toList = held
  digest : trace.digest = Digest.ofBytes (held.take (count * lanes.bytes))
  whole : held.take (count * lanes.bytes) = Trace.stored (registers.take count)
  fewer : (held.drop (count * lanes.bytes)).length < lanes.bytes
  uncut : (∀ answer ∈ answers, answer = .ok ()) → held.drop (count * lanes.bytes) = []
  cut : ∀ (number : Nat) (register : Register lanes) (cause : IoFailure),
    registers[number]? = some register → answers[number]? = some (.error cause) →
    (∀ earlier < number, answers[earlier]? = some (.ok ())) →
    held.drop (count * lanes.bytes) <+: register.encode

section Cut

variable {limit count : Nat} {registers : List (Register lanes)}

/-- In front of the cut stand the whole records. -/
theorem take_cut (fitted : StoredTrace.fitting lanes limit registers.length = count) :
    ((Trace.stored registers).take limit).take (count * lanes.bytes) =
      Trace.stored (registers.take count) := by
  subst fitted
  rw [List.take_take, Nat.min_eq_left (StoredTrace.fitting_mul_le ..),
    Trace.take_stored _ (StoredTrace.fitting_le ..)]

/-- Behind the whole records there is nothing, or less than all of the next record. -/
theorem drop_cut (fitted : StoredTrace.fitting lanes limit registers.length = count) :
    let rest := ((Trace.stored registers).take limit).drop (count * lanes.bytes)
    (count = registers.length ∧ rest = []) ∨
      ∃ register, registers[count]? = some register ∧ rest <+: register.encode ∧
        rest.length < lanes.bytes := by
  have inside := StoredTrace.fitting_le lanes limit registers.length
  rw [fitted] at inside
  simp only [List.drop_take, Trace.drop_stored _ inside]
  rcases Nat.lt_or_eq_of_le inside with left | rfl
  · have small := StoredTrace.sub_fitting_lt (fitted.symm ▸ left)
    rw [fitted] at small
    refine .inr ⟨_, List.getElem?_eq_getElem left, ?_⟩
    rw [List.drop_eq_getElem_cons left, Trace.stored_cons, List.take_append_of_le_length]
    · refine ⟨List.take_prefix _ _, ?_⟩
      rw [List.length_take]
      exact Nat.lt_of_le_of_lt (Nat.min_le_left _ _) small
    · rw [Register.length_encode]
      exact Nat.le_of_lt small
  · refine .inl ⟨rfl, ?_⟩
    rw [List.drop_length, Trace.stored, List.flatMap_nil, List.take_nil]

end Cut

/-- A hashed trace matches what a buffer of any limit has stored. -/
theorem matches_tell (limit : Nat) (flushFails : Bool) (registers : List (Register lanes)) :
    let told := Recorder.tell (start (StoredTrace.start lanes
      (⟨#[], some limit, flushFails⟩ : BoundedBuffer))) (registers.map .record)
    Matches limit registers told.1 told.2 (StoredTrace.fitting lanes limit registers.length)
      ((Trace.stored registers).take limit) := by
  obtain ⟨later, holds, behind⟩ := StoredTrace.tell_start limit flushFails registers
  obtain ⟨answers, inner, accepted, hashed⟩ := tell_eq
    (start (StoredTrace.start lanes (⟨#[], some limit, flushFails⟩ : BoundedBuffer)))
    (registers.map .record)
  have inside := StoredTrace.fitting_le lanes limit registers.length
  have reached : ∀ number < registers.length, number <
      StoredTrace.fitting lanes limit registers.length ↔ (number + 1) * lanes.bytes ≤ limit :=
    fun number => StoredTrace.lt_fitting_iff
  generalize fitted : StoredTrace.fitting lanes limit registers.length = count at *
  simp only [start, behind, Recorder.accepted_append_replicate] at answers inner accepted hashed
  intro told
  change told.1 = _ at answers
  change told.2.inner = _ at inner
  change told.2.accepted = _ at accepted
  change told.2.hashed.toList = _ at hashed
  generalize told.1 = replies at answers ⊢
  generalize told.2 = trace at inner accepted hashed ⊢
  subst answers
  constructor
  case succeeded => simp [List.countP_append, List.countP_replicate, Except.isOk, Except.toBool]
  case answered =>
    intro number asked
    rw [getElem?_answers, reached number asked]
  case accepted => rw [accepted, List.length_take_of_le inside, Nat.zero_add]
  case written => rw [inner]
  case stored => rw [inner, holds]
  case digest =>
    rw [digest, hashed, take_cut fitted]
    rfl
  case whole => exact take_cut fitted
  case fewer =>
    rcases drop_cut fitted with ⟨-, nothing⟩ | ⟨register, -, -, small⟩
    · rw [nothing]
      exact lanes.bytes_pos
    · exact small
  case uncut =>
    intro all
    rcases drop_cut fitted with ⟨-, nothing⟩ | ⟨register, next, -, -⟩
    · exact nothing
    · have left := (List.getElem?_eq_some_iff.mp next).1
      have failed : (.error StoredTrace.full : Except IoFailure Unit) ∈
          List.replicate count (.ok ()) ++
            List.replicate (registers.length - count) (.error StoredTrace.full) := by
        refine List.mem_append_right _ (List.mem_replicate.mpr ⟨?_, rfl⟩)
        exact Nat.sub_ne_zero_of_lt left
      cases all _ failed
  case cut =>
    intro number register cause given failed earlier
    -- The first failure is the answer behind the successes.
    have unfit : ¬number < count := by
      intro fits
      rw [(getElem?_answers ..).mpr fits] at failed
      cases failed
    have first : ¬count < number := fun behind =>
      Nat.lt_irrefl _ ((getElem?_answers ..).mp (earlier _ behind))
    obtain rfl : number = count := by omega
    rcases drop_cut fitted with ⟨-, nothing⟩ | ⟨next, found, beginning, -⟩
    · rw [nothing]
      exact List.nil_prefix
    · obtain rfl : register = next := Option.some.inj (given.symm.trans found)
      exact beginning

end HashedTrace

/-- Fingerprints match what was stored, also when the store runs full. Whatever registers are given
to a hashed trace in front of an empty buffer of any limit, both counters are the number of
successes; the digest is that of the bytes of so many records at the front of the buffer, which are
the stored forms of the first so many registers; behind them stand fewer bytes than a record, none
if nothing failed, and else the beginning of the first register that failed; and a call succeeds
exactly when the limit has room for all records up to it. In front of any recorder, and whatever it
is told, a hashed trace answers as the recorder does and hashes and counts exactly the registers
that it accepts, in order. -/
theorem fingerprints_match_what_was_stored (lanes : Lanes) :
    (∀ (limit : Nat) (flushFails : Bool) (registers : List (Register lanes)),
      let told := Recorder.tell (HashedTrace.start (StoredTrace.start lanes
        (⟨#[], some limit, flushFails⟩ : BoundedBuffer))) (registers.map .record)
      ∃ count held, HashedTrace.Matches limit registers told.1 told.2 count held) ∧
    ∀ (R : Type) [Recorder lanes R] (inner : R) (requests : List (Recorder.Request lanes)),
      let told := Recorder.tell (HashedTrace.start inner) requests
      let plain := Recorder.tell inner requests
      let accepted := Recorder.accepted requests plain.1
      told.1 = plain.1 ∧ told.2.inner = plain.2 ∧ told.2.accepted = accepted.length ∧
        told.2.digest = Digest.ofBytes (Trace.stored accepted) := by
  constructor
  · intro limit flushFails registers
    exact ⟨_, _, HashedTrace.matches_tell limit flushFails registers⟩
  · intro R _ inner requests
    obtain ⟨answers, behind, accepted, hashed⟩ :=
      HashedTrace.tell_eq (HashedTrace.start inner) requests
    refine ⟨answers, behind, accepted.trans (Nat.zero_add _), ?_⟩
    rw [HashedTrace.digest, hashed]
    rfl

end Bitslice
