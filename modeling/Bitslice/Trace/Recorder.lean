import Bitslice.Register
import Bitslice.Stream.Sink

/-!
# Recorders

A trace is the sequence of registers that a circuit's gates write, in program
order. A recorder takes one register after the other and is told when the last
gate has run. It is returned also when it fails, with whatever it has kept.
-/

namespace Bitslice

/-- Something that takes the records of a trace. -/
class Recorder (lanes : outParam Lanes) (R : Type) where
  /-- Takes the register that a gate has written. -/
  record : R → Register lanes → Except IoFailure Unit × R
  /-- Learns that the last gate has run. -/
  finish : R → Except IoFailure Unit × R

/-- No trace: every record is dropped. -/
structure Untraced (lanes : Lanes) where

instance {lanes : Lanes} : Recorder lanes (Untraced lanes) where
  record recorder _ := (.ok (), recorder)
  finish recorder := (.ok (), recorder)

/-- A trace kept in memory. -/
structure TraceList (lanes : Lanes) where
  /-- The records so far. -/
  records : Array (Register lanes)

namespace TraceList

/-- No records yet. -/
def empty (lanes : Lanes) : TraceList lanes :=
  ⟨#[]⟩

instance {lanes : Lanes} : Recorder lanes (TraceList lanes) where
  record recorder register := (.ok (), ⟨recorder.records.push register⟩)
  finish recorder := (.ok (), recorder)

end TraceList

/-- A trace written to a byte sink in stored form, without any header. -/
structure StoredTrace (lanes : Lanes) (W : Type) where
  /-- Where the bytes go. -/
  sink : W
  /-- The number of records that were written whole. -/
  written : Nat

namespace StoredTrace

/-- A trace about to be written. -/
def start (lanes : Lanes) {W : Type} (sink : W) : StoredTrace lanes W :=
  ⟨sink, 0⟩

instance {lanes : Lanes} {W : Type} [ByteSink W] : Recorder lanes (StoredTrace lanes W) where
  record recorder register :=
    match ByteSink.write recorder.sink register.encode with
    | (.ok (), sink) => (.ok (), ⟨sink, recorder.written + 1⟩)
    | (.error cause, sink) => (.error cause, { recorder with sink := sink })
  finish recorder :=
    match ByteSink.flush recorder.sink with
    | (result, sink) => (result, { recorder with sink := sink })

end StoredTrace

/-- A trace that is kept only if there is a recorder for it. -/
instance {lanes : Lanes} {R : Type} [Recorder lanes R] : Recorder lanes (Option R) where
  record recorder register :=
    match recorder with
    | none => (.ok (), none)
    | some inner =>
      match Recorder.record inner register with
      | (result, inner) => (result, some inner)
  finish recorder :=
    match recorder with
    | none => (.ok (), none)
    | some inner =>
      match Recorder.finish inner with
      | (result, inner) => (result, some inner)

end Bitslice
