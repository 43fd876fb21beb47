import Bitslice.Digest
import Bitslice.Trace.Recorder

/-!
# Hashed traces

A hashed trace stands in front of another recorder and hashes the stored form
of every record that the other one has accepted. The digest of a trace that is
written to a file is therefore the digest of that file.
-/

namespace Bitslice

/-- A recorder with the digest of what it has accepted. -/
structure HashedTrace (R : Type) where
  /-- The recorder behind. -/
  inner : R
  /-- The stored forms of the accepted records, one after the other. -/
  hashed : Array UInt8
  /-- The number of accepted records. -/
  accepted : Nat

namespace HashedTrace

/-- Nothing has been accepted yet. -/
def start {R : Type} (inner : R) : HashedTrace R :=
  ⟨inner, #[], 0⟩

/-- The digest of the records accepted so far. -/
def digest {R : Type} (trace : HashedTrace R) : Bytes :=
  Digest.ofBytes trace.hashed.toList

instance {lanes : Lanes} {R : Type} [Recorder lanes R] : Recorder lanes (HashedTrace R) where
  record trace register :=
    match Recorder.record trace.inner register with
    | (.ok (), inner) => (.ok (), ⟨inner, trace.hashed ++ register.encode, trace.accepted + 1⟩)
    | (.error cause, inner) => (.error cause, { trace with inner := inner })
  finish trace :=
    match Recorder.finish trace.inner with
    | (result, inner) => (result, { trace with inner := inner })

end HashedTrace

end Bitslice
