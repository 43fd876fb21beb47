import Bitslice.Descriptor.Widths
import Bitslice.Gate

/-!
# Gate records

A gate is stored as its operator's tag, the addresses of the sources it reads
and its destination, all little-endian and without padding. The number of
bytes therefore depends on the operator. `Gate.encode` writes a record and
`Gate.decode` reads one off the front of a byte sequence.
-/

namespace Bitslice

/-- What an encoder has written, and whether it could finish. -/
structure Encoding where
  /-- The bytes written, including those before a failure. -/
  written : Bytes
  /-- Whether every field fitted. -/
  result : Except Malformed Unit

namespace Encoding

/-- Writes fields of one width in order and stops before the first that does not fit. -/
def ofFields (width : Nat) : List UInt64 → Encoding
  | [] => ⟨[], .ok ()⟩
  | field :: rest =>
    match Field.encode width field with
    | .error cause => ⟨[], .error cause⟩
    | .ok bytes =>
      let later := ofFields width rest
      ⟨bytes ++ later.written, later.result⟩

end Encoding

/-- The size of the record of an operator. -/
def Widths.recordSize (widths : Widths) (operator : Operator) : Nat :=
  widths.opcode + (operator.arity + 1) * widths.address

namespace Gate

/-- The size of the gate's record. -/
def recordSize (gate : Gate) (widths : Widths) : Nat :=
  widths.recordSize gate.operator

/-- Writes the gate's record: tag, sources, destination. -/
def encode (gate : Gate) (widths : Widths) : Encoding :=
  match Field.encode widths.opcode gate.operator.tag with
  | .error cause => ⟨[], .error cause⟩
  | .ok tag =>
    let addresses := Encoding.ofFields widths.address (gate.sources ++ [gate.destination])
    ⟨tag ++ addresses.written, addresses.result⟩

/-- Reads one record off the front of `bytes`, which stand at `offset` of their stream,
and returns the gate with the bytes after it. -/
def decode (widths : Widths) (offset : Nat) (bytes : Bytes) :
    Except Malformed (Gate × Bytes) :=
  match Field.split? widths.opcode bytes with
  | none => .error (.truncated offset widths.opcode bytes.length)
  | some (tagBytes, afterTag) =>
    let tag := Field.decode widths.opcode tagBytes
    match Operator.ofTag? tag with
    | none => .error (.invalidOpcode tag offset)
    | some operator =>
      match Field.splitMany? widths.address (operator.arity + 1) afterTag with
      | none => .error (.truncated offset (widths.recordSize operator) bytes.length)
      | some (addresses, rest) => .ok (ofAddresses operator addresses, rest)

/-- Reads the record that starts at `offset` of a stream; nothing is left past the stream's end. -/
def decodeAt (widths : Widths) (stream : Bytes) (offset : Nat) : Except Malformed (Gate × Bytes) :=
  decode widths offset (stream.drop offset)

/-- The gate of an operator has that operator. -/
@[simp] theorem operator_ofAddresses (operator : Operator) (addresses : List UInt64) :
    (ofAddresses operator addresses).operator = operator := by
  unfold ofAddresses
  split <;> rfl

/-- A decoded record takes exactly the bytes of its size. -/
theorem length_of_decode {widths : Widths} {offset : Nat} {bytes rest : Bytes} {gate : Gate}
    (decoded : decode widths offset bytes = .ok (gate, rest)) :
    rest.length + gate.recordSize widths = bytes.length := by
  unfold decode at decoded
  split at decoded
  · cases decoded
  · next tagBytes afterTag tagSplit =>
    have tagLength := Field.length_of_split? tagSplit
    simp only at decoded
    split at decoded
    · cases decoded
    · next operator known =>
      split at decoded
      · cases decoded
      · next addresses later addressSplit =>
        obtain ⟨rfl, rfl⟩ := Prod.mk.inj (Except.ok.inj decoded)
        have addressLength := Field.length_of_splitMany? addressSplit
        simp only [recordSize, operator_ofAddresses, Widths.recordSize]
        omega

/-- Every record takes at least one byte, so decoding makes progress. -/
theorem length_lt_of_decode {widths : Widths} {offset : Nat} {bytes rest : Bytes} {gate : Gate}
    (decoded : decode widths offset bytes = .ok (gate, rest)) :
    rest.length < bytes.length := by
  have exact := length_of_decode decoded
  have tagNonempty := widths.opcode_bounded.1
  simp only [recordSize, Widths.recordSize] at exact
  omega

end Gate

end Bitslice
