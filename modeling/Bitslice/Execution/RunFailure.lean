import Bitslice.Descriptor.Malformed
import Bitslice.Stream.Failure

/-!
# Why a run does not succeed

Refused arguments and a trace file that cannot be created are reported before
anything changes. `RunFailure.status` sorts the failures for hosts that only
take a number.
-/

namespace Bitslice

/-- A run that does not succeed. -/
inductive RunFailure where
  /-- A batch of no instance, or of more than a register has lanes. -/
  | batchWidth (batch lanes : Nat)
  /-- Fewer input bytes than the batch needs. -/
  | inputTooShort (needed got : Nat)
  /-- Fewer output bytes than the batch needs. -/
  | outputTooShort (needed got : Nat)
  /-- A gate whose tag names no operator. -/
  | invalidOpcode (tag : UInt64) (offset : Nat)
  /-- A gate that runs past the end of the stream. -/
  | truncated (offset : Nat)
  /-- A gate that uses a cell outside the memory. -/
  | addressOutOfRange (address memory : UInt64)
  /-- Another fault in the opcode stream. -/
  | decode (cause : Malformed)
  /-- The trace file cannot be created. -/
  | traceUnopened (path : String) (cause : IoFailure)
  /-- The trace cannot be written or read. -/
  | trace (cause : IoFailure)
  deriving DecidableEq, Repr

namespace RunFailure

/-- A fault in the opcode stream as a failure of the run. -/
def ofMalformed : Malformed → RunFailure
  | .invalidOpcode tag offset => .invalidOpcode tag offset
  | .truncated offset _ _ => .truncated offset
  | .addressOutOfRange _ address memory => .addressOutOfRange address memory
  | cause => .decode cause

/-- The number that stands for each failure; zero is success. -/
def status : RunFailure → Int
  | .batchWidth _ _ | .inputTooShort _ _ | .outputTooShort _ _ => -4
  | .invalidOpcode _ _ | .truncated _ | .addressOutOfRange _ _ | .decode _ => -3
  | .trace _ => -2
  | .traceUnopened _ _ => -1

/-- The wording of each failure. -/
def message : RunFailure → String
  | .batchWidth batch lanes => s!"batch width {batch} outside 1..={lanes}"
  | .inputTooShort needed got => s!"input buffer holds {got} bytes, need {needed}"
  | .outputTooShort needed got => s!"output buffer holds {got} bytes, need {needed}"
  | .invalidOpcode tag offset => s!"invalid opcode tag {tag.toNat} at stream offset {offset}"
  | .truncated offset => s!"opcode stream truncated at offset {offset}"
  | .addressOutOfRange address memory =>
    s!"gate addresses cell {address.toNat}, memory holds {memory.toNat} cells"
  | .decode cause => s!"malformed opcode stream: {cause.message}"
  | .traceUnopened path cause => s!"failed to open trace {path}: {cause.message}"
  | .trace cause => s!"trace write failed: {cause.message}"

/-- The failure's message, followed by that of the failure that caused it. -/
def messages (failure : RunFailure) : List String :=
  failure.message ::
    match failure with
    | .decode cause => [cause.message]
    | .traceUnopened _ cause => [cause.message]
    | .trace cause => [cause.message]
    | _ => []

end RunFailure

end Bitslice
