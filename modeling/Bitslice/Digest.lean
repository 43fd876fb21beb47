import Bitslice.Field

/-!
# Digests

The BLAKE3 hash. The input is cut into chunks of 1024 bytes and every chunk
into blocks of 64. A chunk's blocks are compressed one after the other; the
chunks' results are combined pairwise in a binary tree. Marks on the first and
last block of a chunk, on inner nodes and on the root keep them apart.
-/

namespace Bitslice

namespace Digest

/-- The eight words that one compression hands to the next. -/
abbrev Chaining := Vector UInt32 8

/-- Sixteen words of message or state. -/
abbrev Words := Vector UInt32 16

/-- The chaining words before the first block. -/
def initial : Chaining :=
  #v[0x6A09E667, 0xBB67AE85, 0x3C6EF372, 0xA54FF53A, 0x510E527F, 0x9B05688C, 0x1F83D9AB, 0x5BE0CD19]

/-- Marks the first block of a chunk. -/
def chunkStart : UInt32 := 1

/-- Marks the last block of a chunk. -/
def chunkEnd : UInt32 := 2

/-- Marks an inner node of the tree. -/
def parent : UInt32 := 4

/-- Marks the compression that gives the digest. -/
def root : UInt32 := 8

/-- A word turned right by more than zero and fewer than 32 bits. -/
def rotateRight (word : UInt32) (count : UInt32) : UInt32 :=
  (word >>> count) ||| (word <<< (32 - count))

/-- Mixes two message words into four words of the state. -/
def mix (state : Words) (a b c d : Nat) (x y : UInt32) : Words :=
  let wordA := state.getD a 0 + state.getD b 0 + x
  let wordD := rotateRight (state.getD d 0 ^^^ wordA) 16
  let wordC := state.getD c 0 + wordD
  let wordB := rotateRight (state.getD b 0 ^^^ wordC) 12
  let wordA := wordA + wordB + y
  let wordD := rotateRight (wordD ^^^ wordA) 8
  let wordC := wordC + wordD
  let wordB := rotateRight (wordB ^^^ wordC) 7
  (((state.setIfInBounds a wordA).setIfInBounds b wordB).setIfInBounds c wordC).setIfInBounds d
    wordD

/-- Mixes a pair of neighbouring message words into four words of the state. -/
def mixPair (message state : Words) (pair a b c d : Nat) : Words :=
  mix state a b c d (message.getD (2 * pair) 0) (message.getD (2 * pair + 1) 0)

/-- One round: the columns with the first half of the message, the diagonals with the second. -/
def round (state message : Words) : Words :=
  let state := mixPair message state 0 0 4 8 12
  let state := mixPair message state 1 1 5 9 13
  let state := mixPair message state 2 2 6 10 14
  let state := mixPair message state 3 3 7 11 15
  let state := mixPair message state 4 0 5 10 15
  let state := mixPair message state 5 1 6 11 12
  let state := mixPair message state 6 2 7 8 13
  mixPair message state 7 3 4 9 14

/-- Where each message word of a round stood in the round before. -/
def order : Vector Nat 16 :=
  #v[2, 6, 3, 10, 7, 0, 4, 13, 1, 11, 12, 5, 9, 14, 15, 8]

/-- The message words in the order of the round after. -/
def permute (message : Words) : Words :=
  order.map fun index => message.getD index 0

/-- Rounds on a state, the message permuted between them. -/
def rounds : (count : Nat) → (state message : Words) → Words
  | 0, state, _ => state
  | count + 1, state, message => rounds count (round state message) (permute message)

/-- Compresses one block into new chaining words. -/
def compress (chaining : Chaining) (message : Words) (counter : UInt64) (length marks : UInt32) :
    Chaining :=
  let state : Words := chaining
    ++ #v[initial.getD 0 0, initial.getD 1 0, initial.getD 2 0, initial.getD 3 0]
    ++ #v[counter.toUInt32, (counter >>> 32).toUInt32, length, marks]
  let mixed := rounds 7 state message
  Vector.ofFn fun index => mixed.getD index.val 0 ^^^ mixed.getD (index.val + 8) 0

/-- The words of a block, least significant byte first; missing bytes are zero. -/
def blockWords (block : Bytes) : Words :=
  Vector.ofFn fun index => UInt32.ofNat (Field.value ((block.drop (4 * index.val)).take 4))

/-- The bytes cut into pieces of `size`; only the last one may be shorter, and no bytes give one
empty piece. -/
def pieces (size : Nat) (bytes : Bytes) : List Bytes :=
  match _later : bytes.drop size with
  | [] => [bytes]
  | first :: rest =>
    if size = 0 then [bytes] else bytes.take size :: pieces size (first :: rest)
termination_by bytes.length
decreasing_by
  have shorter := congrArg List.length _later
  simp only [List.length_drop, List.length_cons] at shorter ⊢
  omega

/-- A node of the tree whose last compression is still to be made, for only the root's is marked. -/
structure Node where
  /-- The chaining words that enter the last compression. -/
  chaining : Chaining
  /-- The block of the last compression. -/
  message : Words
  /-- The number of the chunk, zero for an inner node. -/
  counter : UInt64
  /-- The bytes of the block that are in use. -/
  length : UInt32
  /-- The marks of the node's place. -/
  marks : UInt32

namespace Node

/-- What the node hands to its parent. -/
def output (node : Node) : Chaining :=
  compress node.chaining node.message node.counter node.length node.marks

/-- What the node gives as the root. -/
def outputAsRoot (node : Node) : Chaining :=
  compress node.chaining node.message 0 node.length (node.marks ||| root)

/-- The node of a chunk's blocks, given what the blocks before them have left. -/
def ofBlocks (number : UInt64) (chaining : Chaining) (marks : UInt32) : List Bytes → Node
  | [] => ⟨chaining, blockWords [], number, 0, marks ||| chunkEnd⟩
  | [block] =>
    ⟨chaining, blockWords block, number, UInt32.ofNat block.length, marks ||| chunkEnd⟩
  | block :: later =>
    ofBlocks number
      (compress chaining (blockWords block) number (UInt32.ofNat block.length) marks) 0 later

/-- The node of a chunk. -/
def ofChunk (number : Nat) (chunk : Bytes) : Node :=
  ofBlocks (UInt64.ofNat number) initial chunkStart (pieces 64 chunk)

/-- The node above two others. -/
def above (left right : Node) : Node :=
  ⟨initial, left.output ++ right.output, 0, 64, parent⟩

/-- One level up: neighbours are joined in pairs, and an odd last node moves up as it is. -/
def pairUp : List Node → List Node
  | left :: right :: rest => above left right :: pairUp rest
  | rest => rest

/-- A level up is never longer. -/
theorem length_pairUp (nodes : List Node) : (pairUp nodes).length = (nodes.length + 1) / 2 := by
  fun_induction pairUp nodes with
  | case1 left right rest ih => simp only [List.length_cons, ih]; omega
  | case2 rest short =>
    match rest, short with
    | [], _ => rfl
    | [_], _ => simp
    | left :: right :: later, short => exact absurd rfl (short left right later)

/-- The root of the tree over a level of nodes, `first` leftmost. -/
def rootOf (first : Node) (others : List Node) : Node :=
  match others with
  | [] => first
  | second :: rest => rootOf (above first second) (pairUp rest)
termination_by others.length
decreasing_by rw [length_pairUp, List.length_cons]; omega

end Node

/-- The digest of a byte sequence, 32 bytes long. -/
def ofBytes (bytes : Bytes) : Bytes :=
  let nodes := (pieces 1024 bytes).zipIdx.map fun (chunk, number) => Node.ofChunk number chunk
  let root := match nodes with
    | [] => Node.ofChunk 0 []
    | first :: others => Node.rootOf first others
  root.outputAsRoot.toList.flatMap fun word => Field.digits 4 word.toNat

end Digest

end Bitslice
