import Bitslice.Descriptor.Malformed

/-!
# Failures of streams and files

An `IoFailure` is what a read, a write or a file operation can answer instead of
a result. Its kind is what callers decide on, its message what people read.
-/

namespace Bitslice

/-- The kinds of failure that callers can tell apart. -/
inductive IoFailureKind where
  /-- Something that does not exist. -/
  | notFound
  /-- Something that exists already. -/
  | alreadyExists
  /-- A path that goes on below a file. -/
  | notADirectory
  /-- A directory where a file is wanted. -/
  | isADirectory
  /-- An argument that the operation refuses. -/
  | invalidInput
  /-- Data that the operation refuses. -/
  | invalidData
  /-- Data that ends too early. -/
  | unexpectedEnd
  /-- Anything else. -/
  | other
  deriving DecidableEq, Repr

/-- What the operating system can answer about a path or a file. -/
inductive SystemFault where
  /-- Nothing has that name. -/
  | noEntry
  /-- The name is taken. -/
  | entryExists
  /-- A file stands where the path needs a directory. -/
  | notDirectory
  /-- A directory stands where the operation needs a file. -/
  | isDirectory
  /-- There is no room left. -/
  | noSpace
  deriving DecidableEq, Repr

namespace SystemFault

/-- The kind of each fault. -/
def kind : SystemFault → IoFailureKind
  | noEntry => .notFound
  | entryExists => .alreadyExists
  | notDirectory => .notADirectory
  | isDirectory => .isADirectory
  | noSpace => .other

/-- The system's text of each fault, with its number. -/
def message : SystemFault → String
  | noEntry => "No such file or directory (os error 2)"
  | entryExists => "File exists (os error 17)"
  | notDirectory => "Not a directory (os error 20)"
  | isDirectory => "Is a directory (os error 21)"
  | noSpace => "No space left on device (os error 28)"

end SystemFault

/-- A failed stream or file operation. -/
inductive IoFailure where
  /-- A trace that stops inside a record. -/
  | partialRecord
  /-- A trace with fewer records than its circuit has gates. -/
  | missingRecord (read : Nat)
  /-- A trace with more records than its circuit has gates. -/
  | surplusRecord
  /-- More instances asked for than a record has lanes. -/
  | tooManyInstances (requested lanes : Nat)
  /-- A descriptor that cannot be encoded. -/
  | unencodable (cause : Malformed)
  /-- A path or a write that the operating system refuses. -/
  | system (fault : SystemFault)
  /-- Whatever a device itself reports. -/
  | device (kind : IoFailureKind) (text : String)
  deriving DecidableEq, Repr

namespace IoFailure

/-- The kind of each failure. -/
def kind : IoFailure → IoFailureKind
  | partialRecord => .unexpectedEnd
  | missingRecord _ => .unexpectedEnd
  | surplusRecord => .invalidData
  | tooManyInstances _ _ => .invalidInput
  | unencodable _ => .invalidInput
  | system fault => fault.kind
  | device kind _ => kind

/-- The wording of each failure. -/
def message : IoFailure → String
  | partialRecord => "trace ends in the middle of a record"
  | missingRecord read => s!"trace ends after {read} records"
  | surplusRecord => "trace has more records than the circuit has gates"
  | tooManyInstances requested lanes =>
    s!"{requested} instances requested from a {lanes} lane trace"
  | unencodable cause => cause.message
  | system fault => fault.message
  | device _ text => text

end IoFailure

end Bitslice
