import Bitslice.Bits
import Bitslice.Stream.Sink
import Bitslice.Trace.Reader

/-!
# Splitting traces by instance

A trace of several instances is turned into one trace per instance: instance
`j` gets lane `j` of every record, eight records to a byte. A byte goes out to
every writer as soon as eight records are complete, and the last byte is filled
up with zeros.
-/

namespace Bitslice

namespace Trace

variable {lanes : Lanes} {W : Type} [ByteSink W]

/-- Performs an operation on every writer in turn and stops at the first failure. The index
counts the writers from the given one on. -/
def eachWriter (operation : Nat → W → Except IoFailure Unit × W) (index : Nat) :
    List W → Except IoFailure Unit × List W
  | [] => (.ok (), [])
  | writer :: later =>
    match operation index writer with
    | (.error cause, writer) => (.error cause, writer :: later)
    | (.ok (), writer) =>
      match eachWriter operation (index + 1) later with
      | (result, later) => (result, writer :: later)

/-- The byte that up to eight records give instance `index`. -/
def instanceByte (records : List (Register lanes)) (index : Nat) : UInt8 :=
  Bits.octet (records.map fun register => register.lane index)

/-- Writes each instance its byte of a full group of records. -/
def writeGroup (group : List (Register lanes)) (writers : List W) :
    Except IoFailure Unit × List W :=
  eachWriter (fun index writer => ByteSink.write writer [instanceByte group index]) 0 writers

/-- Writes each instance its byte of the records left over, if there are any, and flushes it. -/
def writeLast (group : List (Register lanes)) (writers : List W) :
    Except IoFailure Unit × List W :=
  eachWriter (fun index writer =>
    if group.isEmpty then ByteSink.flush writer
    else
      match ByteSink.write writer [instanceByte group index] with
      | (.error cause, writer) => (.error cause, writer)
      | (.ok (), writer) => ByteSink.flush writer) 0 writers

/-- Distributes records, eight at a time. What is done with the records left over depends on
whether the trace has ended well. -/
def distribute (failure : Option IoFailure) (writers : List W) (records : List (Register lanes)) :
    Except IoFailure Unit × List W :=
  let group := records.take 8
  if group.length < 8 then
    match failure with
    | some cause => (.error cause, writers)
    | none => writeLast group writers
  else
    match writeGroup group writers with
    | (.error cause, writers) => (.error cause, writers)
    | (.ok (), writers) => distribute failure writers (records.drop 8)
termination_by records.length
decreasing_by
  have whole : ¬(records.take 8).length < 8 := ‹_›
  simp only [List.length_take, List.length_drop] at whole ⊢
  omega

/-- Splits a trace over one writer per instance and counts its records. More writers than lanes
are refused before anything is read. -/
def split (lanes : Lanes) (source : ByteSource) (writers : List W) :
    Except IoFailure Nat × List W :=
  if lanes.count < writers.length then
    (.error (.tooManyInstances writers.length lanes.count), writers)
  else
    let contents := read lanes source
    match distribute contents.failure writers contents.records with
    | (.error cause, writers) => (.error cause, writers)
    | (.ok (), writers) => (.ok contents.records.length, writers)

end Trace

end Bitslice
