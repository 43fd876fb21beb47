import Bitslice.File.Writer
import Bitslice.Proofs.StoredTraces

/-!
# What reaches a file

A writer loses nothing and invents nothing: what its file has and what it holds
back are together what was written (`FileWriter.contents_drain`). A trace that
is written record by record is therefore answered, and ends up in the file, like
its stored form offered at once (`StoredTrace.keep_writer`), however late the
writer finds out that there is no room.
-/

namespace Bitslice

variable {lanes : Lanes}

namespace Device

variable {device : Device} {size : Nat} {front : Bytes}

/-- A file of so many bytes has room. -/
def Holds : Device → Nat → Prop
  | unlimited, _ => True
  | limited room _, size => size ≤ room

theorem answer_eq_ok_iff : device.answer size = .ok () ↔ device.Holds size := by
  cases device with
  | unlimited => simp [answer, Holds]
  | limited room refusal => simp [answer, Holds]

theorem taken_le (device : Device) (size offered : Nat) : device.taken size offered ≤ offered := by
  cases device with
  | unlimited => exact Nat.le_refl offered
  | limited room refusal => exact Nat.min_le_left _ _

theorem Holds.taken (holds : device.Holds size) (offered : Nat) :
    device.Holds (size + device.taken size offered) := by
  cases device with
  | unlimited => trivial
  | limited room refusal =>
    have room : size ≤ room := holds
    simp only [Device.taken, Holds]
    omega

theorem fitting_unlimited (bytes : Bytes) : unlimited.fitting bytes = bytes :=
  List.take_length

theorem fitting_limited (room : Nat) (refusal : IoFailure) (bytes : Bytes) :
    (limited room refusal).fitting bytes = bytes.take room := by
  rw [fitting, taken, Nat.sub_zero, Nat.min_comm, ← List.take_eq_take_min]

/-- Behind bytes that have room, as many are taken as there is room for. -/
theorem Holds.fitting_append (holds : device.Holds front.length) (back : Bytes) :
    device.fitting (front ++ back) =
      front ++ back.take (device.taken front.length back.length) := by
  cases device with
  | unlimited =>
    rw [fitting_unlimited, Device.taken, List.take_length]
  | limited room refusal =>
    have room : front.length ≤ room := holds
    rw [fitting_limited, List.take_append, List.take_of_length_le room, Device.taken,
      Nat.min_comm, ← List.take_eq_take_min]

/-- A device takes bytes whole that it has room for. -/
theorem Holds.fitting_eq (holds : device.Holds front.length) : device.fitting front = front := by
  have whole := holds.fitting_append []
  rwa [List.append_nil, List.take_nil, List.append_nil] at whole

/-- Where bytes have been refused, those behind them change nothing. -/
theorem refused_append {cause : IoFailure} (refused : device.answer front.length = .error cause)
    (back : Bytes) :
    device.answer (front ++ back).length = .error cause ∧
      device.fitting (front ++ back) = device.fitting front := by
  cases device with
  | unlimited => cases refused
  | limited room refusal =>
    rw [answer] at refused
    split at refused
    · cases refused
    · next full =>
      have fuller : ¬(front ++ back).length ≤ room := by
        rw [List.length_append]
        omega
      rw [answer, if_neg fuller, fitting_limited, fitting_limited,
        List.take_append_of_le_length (Nat.le_of_not_le full)]
      exact ⟨refused, rfl⟩

end Device

namespace FileWriter

variable {writer later : FileWriter} {bytes : Bytes}

/-- What has been written: what the file has, and behind it what is held back. -/
def contents (writer : FileWriter) : Bytes :=
  writer.stored.toList ++ writer.pending.toList

/-- The file has no more than its device takes. -/
def Within (writer : FileWriter) : Prop :=
  writer.device.Holds writer.stored.size

theorem within_start (device : Device) : (start device).Within := by
  cases device with
  | unlimited => trivial
  | limited room refusal => exact Nat.zero_le room

theorem length_contents (writer : FileWriter) :
    writer.contents.length = writer.stored.size + writer.pending.size := by
  rw [contents, List.length_append, Array.length_toList, Array.length_toList]

/-- Bytes are answered as if all that were written came at once. -/
theorem drain_answer (writer : FileWriter) :
    writer.drain.1 = writer.device.answer writer.contents.length := by
  rw [length_contents]
  rfl

/-- The number of bytes that the device takes next. -/
def due (writer : FileWriter) : Nat :=
  writer.device.taken writer.stored.size writer.pending.size

theorem stored_drain (writer : FileWriter) :
    writer.drain.2.stored.toList =
      writer.stored.toList ++ writer.pending.toList.take writer.due := by
  simp [drain, due]

theorem pending_drain (writer : FileWriter) :
    writer.drain.2.pending.toList = writer.pending.toList.drop writer.due := by
  have rest :
      (writer.pending.toList.drop writer.due).length ≤ writer.pending.size - writer.due := by
    simp
  simpa [drain, due] using List.take_of_length_le rest

/-- Handing bytes on changes nothing about what has been written. -/
theorem contents_drain (writer : FileWriter) : writer.drain.2.contents = writer.contents := by
  rw [contents, stored_drain, pending_drain, List.append_assoc, List.take_append_drop, contents]

theorem contents_hold (writer : FileWriter) (bytes : Bytes) :
    contents { writer with pending := writer.pending ++ bytes } = writer.contents ++ bytes := by
  simp [contents]

theorem Within.drain (within : writer.Within) : writer.drain.2.Within := by
  have held := Device.Holds.taken within writer.pending.size
  have few : writer.due ≤ writer.pending.size := Device.taken_le ..
  have sized : writer.drain.2.stored.size = writer.stored.size + writer.due := by
    rw [← Array.length_toList, stored_drain]
    simp [few]
  rw [Within, sized]
  exact held

theorem Within.close_eq (within : writer.Within) :
    writer.close = writer.device.fitting writer.contents := by
  have room : writer.device.Holds writer.stored.toList.length := within
  rw [close, stored_drain, contents, room.fitting_append, Array.length_toList, Array.length_toList,
    due]

/-- A write that succeeds has written its bytes, and holds them back. -/
theorem contents_of_write (written : writer.write bytes = (.ok (), later)) :
    later.contents = writer.contents ++ bytes := by
  unfold write at written
  split at written
  · obtain rfl := (Prod.mk.inj written).2
    exact contents_hold writer bytes
  · split at written
    · cases (Prod.mk.inj written).1
    · next drained handed =>
      obtain rfl := (Prod.mk.inj written).2
      have same := contents_drain writer
      rw [handed] at same
      rw [contents_hold, same]

instance : StoringSink FileWriter where
  contents := contents
  contents_write := contents_of_write
  contents_flush := by
    intro writer later flushed
    rw [← contents_drain writer]
    exact congrArg contents (Prod.mk.inj flushed).2.symm

/-- A file stays where it is. -/
theorem device_write (writer : FileWriter) (bytes : Bytes) :
    (writer.write bytes).2.device = writer.device := by
  have drained : writer.drain.2.device = writer.device := rfl
  unfold write
  split
  · rfl
  · split
    · next refused => rwa [refused] at drained
    · next handed => rwa [handed] at drained

theorem Within.write (within : writer.Within) (bytes : Bytes) :
    (writer.write bytes).2.Within := by
  have drained := within.drain
  unfold FileWriter.write
  split
  · exact within
  · split
    · next refused => rwa [refused] at drained
    · next handed => rwa [handed] at drained

/-- A write fails if there is no room for what was written before it, and then adds nothing. -/
theorem refused_of_write {cause : IoFailure} (failed : writer.write bytes = (.error cause, later)) :
    writer.device.answer writer.contents.length = .error cause ∧
      later.contents = writer.contents := by
  have answered := drain_answer writer
  have kept := contents_drain writer
  unfold write at failed
  split at failed
  · cases (Prod.mk.inj failed).1
  · split at failed
    · next refused =>
      rw [refused] at answered kept
      obtain ⟨same, rfl⟩ := Prod.mk.inj failed
      exact ⟨answered.symm.trans same, kept⟩
    · cases (Prod.mk.inj failed).1

section Unlimited

variable (limitless : writer.device = .unlimited)

include limitless

theorem within_of_unlimited : writer.Within := by
  rw [Within, limitless]
  trivial

theorem close_of_unlimited : writer.close = writer.contents := by
  rw [(within_of_unlimited limitless).close_eq, limitless, Device.fitting_unlimited]

/-- On a device that takes every byte nothing is ever refused. -/
theorem reliable_of_unlimited : ByteSink.Reliable writer := by
  refine ⟨fun current => current.device = .unlimited, limitless, ?_⟩
  intro current here
  constructor
  · intro bytes
    have device := device_write current bytes
    rcases written : current.write bytes with ⟨cause | ⟨⟩, later⟩
    · obtain ⟨refused, -⟩ := refused_of_write written
      rw [here] at refused
      cases refused
    · rw [written] at device
      exact ⟨later, written, device.trans here⟩
  · refine ⟨current.drain.2, Prod.ext ?_ rfl, here⟩
    have answered := drain_answer current
    rwa [here] at answered

end Unlimited

end FileWriter

namespace StoredTrace

open FileWriter

/-- A trace that is written behind what was written before is answered like all of it at once, and
the file has in the end what the device takes of all of it. The induction is on the records; what
the writer holds back is part of what was written before. -/
theorem keep_writer {recorder : StoredTrace lanes FileWriter} (within : recorder.sink.Within)
    (trace : List (Register lanes)) :
    (Recorder.keep recorder trace).1 = recorder.sink.device.answer
        (recorder.sink.contents ++ Trace.stored trace).length ∧
      (Recorder.keep recorder trace).2.sink.close = recorder.sink.device.fitting
        (recorder.sink.contents ++ Trace.stored trace) := by
  induction trace generalizing recorder with
  | nil =>
    have whole : recorder.sink.contents ++ Trace.stored ([] : List (Register lanes)) =
        recorder.sink.contents := List.append_nil _
    rw [whole, Recorder.keep_nil]
    refine ⟨drain_answer recorder.sink, ?_⟩
    exact within.drain.close_eq.trans (congrArg _ (contents_drain recorder.sink))
  | cons register trace ih =>
    have withinLater := within.write register.encode
    have device := device_write recorder.sink register.encode
    match written : recorder.sink.write register.encode with
    | (.error cause, sink) =>
      rw [written] at withinLater device
      obtain ⟨refused, same⟩ := refused_of_write written
      obtain ⟨answered, taken⟩ := Device.refused_append refused (Trace.stored (register :: trace))
      rw [Recorder.keep_cons_of_error (record_of_refusal written), answered, taken]
      refine ⟨rfl, ?_⟩
      exact withinLater.close_eq.trans (by rw [device, same])
    | (.ok (), sink) =>
      rw [written] at withinLater device
      have contents := contents_of_write written
      rw [Recorder.keep_cons_of_ok (record_of_write written), Trace.stored_cons,
        ← List.append_assoc, ← contents, ← device]
      exact ih withinLater

/-- A trace written to an empty file. -/
theorem keep_start (device : Device) (trace : List (Register lanes)) :
    let kept := Recorder.keep (start lanes (FileWriter.start device)) trace
    kept.1 = device.answer (Trace.stored trace).length ∧
      kept.2.sink.close = device.fitting (Trace.stored trace) :=
  keep_writer (within_start device) trace

end StoredTrace

end Bitslice
