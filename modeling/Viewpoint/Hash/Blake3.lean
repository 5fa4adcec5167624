import Viewpoint.Text.Digits

/-! The BLAKE3 hash with an output of 32 bytes. -/

namespace Viewpoint.Blake3

/-- Eight words that a subtree of the input is reduced to. -/
abbrev Chaining := Vector UInt32 8

/-- Sixteen words: a block of input, or the state while it is mixed in. -/
abbrev Words := Vector UInt32 16

/-- The first words of the fractional parts of the square roots of the first eight primes. -/
def initialWords : Chaining :=
  #v[0x6A09E667, 0xBB67AE85, 0x3C6EF372, 0xA54FF53A, 0x510E527F, 0x9B05688C, 0x1F83D9AB, 0x5BE0CD19]

/-- The order in which the words of a block enter the next round. -/
def permutation : Vector (Fin 16) 16 :=
  #v[2, 6, 3, 10, 7, 0, 4, 13, 1, 11, 12, 5, 9, 14, 15, 8]

/-- Marks the first block of a chunk. -/
def chunkStart : UInt32 := 1

/-- Marks the last block of a chunk. -/
def chunkEnd : UInt32 := 2

/-- Marks a block that joins two subtrees. -/
def parentBlock : UInt32 := 4

/-- Marks the block that gives the hash. -/
def rootBlock : UInt32 := 8

/-- The number of bytes in a block. -/
def blockSize : Nat := 64

/-- The number of bytes in a chunk. -/
def chunkSize : Nat := 1024

/-- Rotates a word to the right. -/
def rotateRight (word count : UInt32) : UInt32 :=
  (word >>> count) ||| (word <<< (32 - count))

/-- Mixes two words of a block into four words of the state. -/
def mix (state : Words) (a b c d : Fin 16) (x y : UInt32) : Words :=
  let va := state[a] + state[b] + x
  let vd := rotateRight (state[d] ^^^ va) 16
  let vc := state[c] + vd
  let vb := rotateRight (state[b] ^^^ vc) 12
  let va := va + vb + y
  let vd := rotateRight (vd ^^^ va) 8
  let vc := vc + vd
  let vb := rotateRight (vb ^^^ vc) 7
  (((state.set a va).set b vb).set c vc).set d vd

/-- Mixes a whole block into the state, first by columns and then by diagonals. -/
def mixRound (state block : Words) : Words :=
  let state := mix state 0 4 8 12 block[0] block[1]
  let state := mix state 1 5 9 13 block[2] block[3]
  let state := mix state 2 6 10 14 block[4] block[5]
  let state := mix state 3 7 11 15 block[6] block[7]
  let state := mix state 0 5 10 15 block[8] block[9]
  let state := mix state 1 6 11 12 block[10] block[11]
  let state := mix state 2 7 8 13 block[12] block[13]
  mix state 3 4 9 14 block[14] block[15]

/-- Reorders a block for the next round. -/
def permute (block : Words) : Words :=
  permutation.map fun i => block[i]

/-- Mixes a block in the given number of rounds. -/
def mixRounds : Nat → Words → Words → Words
  | 0, state, _ => state
  | rounds + 1, state, block => mixRounds rounds (mixRound state block) (permute block)

/-- Compresses a block under a chaining value, as the given part of the input. -/
def compress (chaining : Chaining) (block : Words) (counter : Nat) (length flags : UInt32) :
    Chaining :=
  let start : Words :=
    #v[chaining[0], chaining[1], chaining[2], chaining[3],
      chaining[4], chaining[5], chaining[6], chaining[7],
      initialWords[0], initialWords[1], initialWords[2], initialWords[3],
      UInt32.ofNat counter, UInt32.ofNat (counter / Nat.pow 2 32), length, flags]
  let final := mixRounds 7 start block
  Vector.ofFn fun i => final.get (i.castLE (by decide)) ^^^ final.get (i.natAdd 8)

/-- Reads a word from four bytes, least significant byte first; missing bytes are zero. -/
def wordOf (bytes : List UInt8) : UInt32 :=
  (bytes.take 4).foldr (fun byte word => (word <<< 8) ||| byte.toUInt32) 0

/-- Cuts a list into pieces of the given size; the last one may be shorter. -/
def pieces {α : Type} (size : Nat) (items : List α) : List (List α) :=
  (List.range ((items.length + size - 1) / size)).map fun i => (items.drop (i * size)).take size

/-- The words of a block, filled up with zeros. -/
def blockWords (bytes : List UInt8) : Words :=
  Vector.ofFn fun i => wordOf (bytes.drop (4 * i.val))

/-- The blocks of a chunk; an empty chunk has one empty block. -/
def blocks (chunk : List UInt8) : List (List UInt8) :=
  if chunk.isEmpty then [[]] else pieces blockSize chunk

/-- Compresses the blocks of a chunk in order; only the last one carries the closing flags. -/
def chunkBlocks (index : Nat) (last : UInt32) :
    Chaining → UInt32 → List (List UInt8) → Chaining
  | chaining, _, [] => chaining
  | chaining, first, [block] =>
    compress chaining (blockWords block) index (UInt32.ofNat block.length)
      (first ||| chunkEnd ||| last)
  | chaining, first, block :: block' :: rest =>
    chunkBlocks index last
      (compress chaining (blockWords block) index (UInt32.ofNat block.length) first) 0
      (block' :: rest)

/-- The chaining value of the chunk at the given index. -/
def chunkValue (index : Nat) (last : UInt32) (chunk : List UInt8) : Chaining :=
  chunkBlocks index last initialWords chunkStart (blocks chunk)

/-- The chaining value of two joined subtrees. -/
def parentValue (last : UInt32) (left right : Chaining) : Chaining :=
  compress initialWords (left ++ right) 0 (UInt32.ofNat blockSize) (parentBlock ||| last)

/-- Joins neighbouring subtrees; one that is left over moves up alone. -/
def joinPairs : List Chaining → List Chaining
  | left :: right :: rest => parentValue 0 left right :: joinPairs rest
  | rest => rest

/-- Joining pairs never makes the list longer. -/
theorem joinPairs_length_le (nodes : List Chaining) : (joinPairs nodes).length ≤ nodes.length := by
  -- Two nodes become one, and a single node at the end stays as it is.
  fun_induction joinPairs nodes with
  | case1 left right rest ih => simp only [List.length_cons]; omega
  | case2 rest => exact Nat.le_refl _

/-- Joins subtrees until the last two of them give the hash. -/
def joinAll : List Chaining → Chaining
  | [] => initialWords
  | [only] => only
  | [left, right] => parentValue rootBlock left right
  | left :: right :: next :: rest =>
    joinAll (parentValue 0 left right :: joinPairs (next :: rest))
  termination_by nodes => nodes.length
  decreasing_by
    have := joinPairs_length_le (next :: rest)
    simp only [List.length_cons] at this ⊢
    omega

/-- The words of the hash of an input. -/
def hashWords (input : List UInt8) : Chaining :=
  if input.length ≤ chunkSize then chunkValue 0 rootBlock input
  else joinAll ((pieces chunkSize input).mapIdx fun index chunk => chunkValue index 0 chunk)

/-- The hexadecimal digits of a word, least significant byte first. -/
def wordDigits (word : UInt32) : List Char :=
  [0, 8, 16, 24].flatMap fun (shift : Nat) => hexPair (word.toNat / Nat.pow 2 shift % 256)

/-- The hash of an input in hexadecimal digits. -/
def hexDigest (input : List UInt8) : String :=
  String.ofList ((hashWords input).toList.flatMap wordDigits)

end Viewpoint.Blake3
