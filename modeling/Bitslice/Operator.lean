/-!
# Gate operators

Five operators exist. Their tags are the numbers one to five; every other tag
is invalid.
-/

namespace Bitslice

/-- What a gate computes. -/
inductive Operator where
  /-- Exclusive or of two cells. -/
  | xor
  /-- Conjunction of two cells. -/
  | and
  /-- Disjunction of two cells. -/
  | or
  /-- Negation of one cell. -/
  | not
  /-- Fresh random bits. -/
  | random
  deriving DecidableEq, Repr

namespace Operator

/-- The tag that stands for the operator in an opcode stream. -/
def tag : Operator → UInt64
  | xor => 1
  | and => 2
  | or => 3
  | not => 4
  | random => 5

/-- The operator of a tag, if it has one. -/
def ofTag? (tag : UInt64) : Option Operator :=
  match tag.toNat with
  | 1 => some xor
  | 2 => some and
  | 3 => some or
  | 4 => some not
  | 5 => some random
  | _ => none

/-- The number of cells the operator reads. -/
def arity : Operator → Nat
  | xor => 2
  | and => 2
  | or => 2
  | not => 1
  | random => 0

/-- Every operator is the one its tag stands for. -/
@[simp] theorem ofTag?_tag (operator : Operator) : ofTag? operator.tag = some operator := by
  cases operator <;> rfl

end Operator

end Bitslice
