/-!
# Keystreams

A keystream is the endless sequence of 32-bit words that a 256-bit key
determines. Its words come in blocks of sixteen; block `n` is the result of
twenty mixing rounds over a state of four constant words, the key, the block
number and a stream number of zero, added to that state.
-/

namespace Bitslice

/-- Sixteen words that the rounds mix. -/
abbrev Block := Vector UInt32 16

/-- A key of eight words. -/
abbrev Key := Vector UInt32 8

namespace Keystream

/-- A word turned left by fewer than 32 bits. -/
def rotateLeft (word : UInt32) (count : UInt32) : UInt32 :=
  (word <<< count) ||| (word >>> (32 - count))

/-- Mixes four words of a block. -/
def quarterRound (block : Block) (a b c d : Nat) : Block :=
  let wordA := block.getD a 0 + block.getD b 0
  let wordD := rotateLeft (block.getD d 0 ^^^ wordA) 16
  let wordC := block.getD c 0 + wordD
  let wordB := rotateLeft (block.getD b 0 ^^^ wordC) 12
  let wordA := wordA + wordB
  let wordD := rotateLeft (wordD ^^^ wordA) 8
  let wordC := wordC + wordD
  let wordB := rotateLeft (wordB ^^^ wordC) 7
  (((block.setIfInBounds a wordA).setIfInBounds b wordB).setIfInBounds c wordC).setIfInBounds d
    wordD

/-- The four columns, then the four diagonals of a block. -/
def doubleRound (block : Block) : Block :=
  let block := quarterRound block 0 4 8 12
  let block := quarterRound block 1 5 9 13
  let block := quarterRound block 2 6 10 14
  let block := quarterRound block 3 7 11 15
  let block := quarterRound block 0 5 10 15
  let block := quarterRound block 1 6 11 12
  let block := quarterRound block 2 7 8 13
  quarterRound block 3 4 9 14

/-- The first words of every state: the ASCII text "expand 32-byte k". -/
def constants : Vector UInt32 4 :=
  #v[0x61707865, 0x3320646e, 0x79622d32, 0x6b206574]

/-- The state before the rounds. The block number fills two words. -/
def initial (key : Key) (number : UInt64) : Block :=
  constants ++ key ++ #v[number.toUInt32, (number >>> 32).toUInt32, 0, 0]

/-- One block of the keystream. -/
def block (key : Key) (number : Nat) : Block :=
  let start := initial key (UInt64.ofNat number)
  ((List.range 10).foldl (fun mixed _ => doubleRound mixed) start).zipWith (· + ·) start

/-- The multiplier of the step that spreads a seed over a key. -/
def seedMultiplier : UInt64 :=
  6364136223846793005

/-- The increment of the step that spreads a seed over a key. -/
def seedIncrement : UInt64 :=
  11634580027462260723

/-- The key word that a seed state gives: its high bits folded together and turned right. -/
def seedWord (state : UInt64) : UInt32 :=
  let folded := (((state >>> 18) ^^^ state) >>> 27).toUInt32
  let count := (state >>> 59).toUInt32
  (folded >>> count) ||| (folded <<< ((32 - count) % 32))

/-- The seed state after some steps. -/
def seedState (seed : UInt64) : Nat → UInt64
  | 0 => seed
  | steps + 1 => seedState seed steps * seedMultiplier + seedIncrement

/-- The key of a seed: one word for each of the first eight states after it. -/
def keyOfSeed (seed : UInt64) : Key :=
  Vector.ofFn fun index => seedWord (seedState seed (index.val + 1))

/-- The word at a position of the keystream. -/
def word (key : Key) (position : Nat) : UInt32 :=
  (block key (position / 16)).getD (position % 16) 0

end Keystream

end Bitslice
