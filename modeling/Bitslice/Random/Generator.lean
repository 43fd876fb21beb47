import Bitslice.Random.Keystream
import Bitslice.Register

/-!
# Random generators

A generator is a place in the keystream of its seed. Every draw takes the next
few words, so what a draw gives depends on the seed and on the number of words
taken before, and on nothing else.
-/

namespace Bitslice

/-- A place in a keystream. -/
structure Generator where
  /-- The key of the keystream. -/
  key : Key
  /-- The number of words taken so far. -/
  position : Nat
  /-- The block that holds the next word. -/
  current : Block
  /-- The kept block is the one the position lies in. -/
  current_eq : current = Keystream.block key (position / 16)

namespace Generator

/-- Generators agree when their keys and positions do. -/
@[ext] theorem ext {left right : Generator} (keys : left.key = right.key)
    (positions : left.position = right.position) : left = right := by
  obtain ⟨leftKey, leftPosition, leftCurrent, leftBlock⟩ := left
  obtain ⟨rightKey, rightPosition, rightCurrent, rightBlock⟩ := right
  subst keys positions leftBlock rightBlock
  rfl

/-- The generator at the start of a seed's keystream. -/
def ofSeed (seed : UInt64) : Generator :=
  let key := Keystream.keyOfSeed seed
  ⟨key, 0, Keystream.block key 0, rfl⟩

/-- Takes the next word. A new block is made only when the kept one is used up. -/
def next (generator : Generator) : UInt32 × Generator :=
  let word := generator.current.getD (generator.position % 16) 0
  if same : (generator.position + 1) / 16 = generator.position / 16 then
    (word, ⟨generator.key, generator.position + 1, generator.current,
      by rw [same]; exact generator.current_eq⟩)
  else
    (word, ⟨generator.key, generator.position + 1,
      Keystream.block generator.key ((generator.position + 1) / 16), rfl⟩)

/-- Takes the next `count` words. -/
def take : (count : Nat) → Generator → List UInt32 × Generator
  | 0, generator => ([], generator)
  | count + 1, generator =>
    let (word, generator) := generator.next
    let (words, generator) := take count generator
    (word :: words, generator)

/-- Draws a register with a random bit in every lane. -/
def draw (lanes : Lanes) (generator : Generator) : Register lanes × Generator :=
  let (words, generator) := generator.take lanes.words
  (Register.ofWords lanes words, generator)

/-- Draws several registers. -/
def drawMany (lanes : Lanes) : (count : Nat) → Generator → List (Register lanes) × Generator
  | 0, generator => ([], generator)
  | count + 1, generator =>
    let (register, generator) := generator.draw lanes
    let (registers, generator) := drawMany lanes count generator
    (register :: registers, generator)

/-- The first `count` bytes of a seed's keystream, each word least significant byte first. -/
def bytesOfSeed (seed : UInt64) (count : Nat) : Bytes :=
  let key := Keystream.keyOfSeed seed
  let blocks := (List.range ((count + 63) / 64)).flatMap fun number =>
    (Keystream.block key number).toList
  (blocks.flatMap fun word => Field.digits 4 word.toNat).take count

end Generator

end Bitslice
