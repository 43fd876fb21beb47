import Bitslice.Descriptor.Malformed
import Bitslice.Operator

/-!
# Gates

A gate reads as many cells as its operator needs and writes one. Operands that
the operator does not read may hold anything; `Gate.normalized` sets them to
zero.
-/

namespace Bitslice

/-- One gate: an operator, two source addresses and a destination. -/
structure Gate where
  /-- What the gate computes. -/
  operator : Operator
  /-- The first source, read unless the gate is random. -/
  first : UInt64
  /-- The second source, read by the operators of two cells only. -/
  second : UInt64
  /-- The cell the gate writes. -/
  destination : UInt64
  deriving DecidableEq, Repr

namespace Gate

/-- The source addresses the gate reads, in order. -/
def sources (gate : Gate) : List UInt64 :=
  [gate.first, gate.second].take gate.operator.arity

/-- The gate with its unread operands set to zero. -/
def normalized (gate : Gate) : Gate :=
  match gate.operator with
  | .xor | .and | .or => gate
  | .not => { gate with second := 0 }
  | .random => { gate with first := 0, second := 0 }

/-- The gate of an operator whose addresses are listed sources first; what is missing is zero. -/
def ofAddresses (operator : Operator) (addresses : List UInt64) : Gate :=
  match operator.arity, addresses with
  | 2, [first, second, destination] => ⟨operator, first, second, destination⟩
  | 1, [first, destination] => ⟨operator, first, 0, destination⟩
  | _, destination :: _ => ⟨operator, 0, 0, destination⟩
  | _, [] => ⟨operator, 0, 0, 0⟩

/-- The first named address at or above the memory size is refused. -/
def checkAddresses (memory : UInt64) : List (String × UInt64) → Except Malformed Unit
  | [] => .ok ()
  | (field, address) :: rest =>
    if address < memory then checkAddresses memory rest
    else .error (.addressOutOfRange field address memory)

/-- Every address the gate uses lies inside the memory: sources first, then the destination. -/
def check (gate : Gate) (memory : UInt64) : Except Malformed Unit :=
  checkAddresses memory (["in1", "in2"].zip gate.sources ++ [("out", gate.destination)])

end Gate

end Bitslice
