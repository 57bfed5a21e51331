/-!
# The BLAKE3 digest

The 32-byte BLAKE3 hash of a list of bytes. The bytes are cut into chunks of 1024 bytes, each
chunk into blocks of 64 bytes, and the chunks are the leaves of a binary tree whose left
branches hold as large a power of two of them as they can.
-/

namespace Statbook.Blake3

/-- The words that the digest starts from. -/
def start : Vector UInt32 8 :=
  #v[0x6A09E667, 0xBB67AE85, 0x3C6EF372, 0xA54FF53A, 0x510E527F, 0x9B05688C, 0x1F83D9AB,
    0x5BE0CD19]

/-- The block was the first of its chunk. -/
def chunkStart : UInt32 := 1

/-- The block was the last of its chunk. -/
def chunkEnd : UInt32 := 2

/-- The block holds the digests of two branches. -/
def parent : UInt32 := 4

/-- The block is the last one of the whole tree. -/
def root : UInt32 := 8

/-- The bits of a word moved round to the right. -/
def rotateRight (x : UInt32) (n : UInt32) : UInt32 :=
  (x >>> n) ||| (x <<< (32 - n))

/-- Mixes two words of a message into four words of the state. -/
def mix (s : Vector UInt32 16) (a b c d : Fin 16) (x y : UInt32) : Vector UInt32 16 :=
  let va := s[a] + s[b] + x
  let vd := rotateRight (s[d] ^^^ va) 16
  let vc := s[c] + vd
  let vb := rotateRight (s[b] ^^^ vc) 12
  let va := va + vb + y
  let vd := rotateRight (vd ^^^ va) 8
  let vc := vc + vd
  let vb := rotateRight (vb ^^^ vc) 7
  (((s.set a va).set b vb).set c vc).set d vd

/-- Mixes a message into the columns and then into the diagonals of the state. -/
def mixRound (s m : Vector UInt32 16) : Vector UInt32 16 :=
  let s := mix s 0 4 8 12 m[0] m[1]
  let s := mix s 1 5 9 13 m[2] m[3]
  let s := mix s 2 6 10 14 m[4] m[5]
  let s := mix s 3 7 11 15 m[6] m[7]
  let s := mix s 0 5 10 15 m[8] m[9]
  let s := mix s 1 6 11 12 m[10] m[11]
  let s := mix s 2 7 8 13 m[12] m[13]
  mix s 3 4 9 14 m[14] m[15]

/-- The order in which the next round takes the words of a message. -/
def permute (m : Vector UInt32 16) : Vector UInt32 16 :=
  #v[m[2], m[6], m[3], m[10], m[7], m[0], m[4], m[13], m[1], m[11], m[12], m[5], m[9], m[14],
    m[15], m[8]]

/-- So many rounds, each but the first on the permuted message of the one before. -/
def mixRounds : Nat → (s m : Vector UInt32 16) → Vector UInt32 16
  | 0, s, _ => s
  | n + 1, s, m => mixRounds n (mixRound s m) (permute m)

/-- A block with all that goes into its compression. -/
structure Node where
  chain : Vector UInt32 8
  block : Vector UInt32 16
  counter : UInt64
  length : UInt32
  flags : UInt32

/-- The eight words that a block is compressed to. -/
def Node.compress (node : Node) : Vector UInt32 8 :=
  let chain := node.chain
  let s : Vector UInt32 16 :=
    #v[chain[0], chain[1], chain[2], chain[3], chain[4], chain[5], chain[6], chain[7],
      start[0], start[1], start[2], start[3],
      node.counter.toUInt32, (node.counter >>> 32).toUInt32, node.length, node.flags]
  let s := mixRounds 7 s node.block
  #v[s[0] ^^^ s[8], s[1] ^^^ s[9], s[2] ^^^ s[10], s[3] ^^^ s[11], s[4] ^^^ s[12],
    s[5] ^^^ s[13], s[6] ^^^ s[14], s[7] ^^^ s[15]]

/-- The bytes of a word, the lowest first. -/
def wordBytes (w : UInt32) : List UInt8 :=
  [w.toUInt8, (w >>> 8).toUInt8, (w >>> 16).toUInt8, (w >>> 24).toUInt8]

/-- The word at an offset of a list of bytes; bytes beyond its end are zero. -/
def wordAt (bytes : Array UInt8) (offset : Nat) : UInt32 :=
  let byte i := (bytes.getD (offset + i) 0).toUInt32
  byte 0 ||| (byte 1 <<< 8) ||| (byte 2 <<< 16) ||| (byte 3 <<< 24)

/-- The sixteen words of a block of at most 64 bytes. -/
def blockWords (bytes : List UInt8) : Vector UInt32 16 :=
  let bytes := bytes.toArray
  Vector.ofFn fun i => wordAt bytes (4 * i.val)

/-- The pieces of `size` elements, the last of them as long as it happens to be. -/
def cut {α : Type} (size : Nat) (xs : List α) : List (List α) :=
  if _h : xs.length ≤ size ∨ size = 0 then [xs]
  else xs.take size :: cut size (xs.drop size)
termination_by xs.length
decreasing_by
  simp only [List.length_drop]
  omega

/-- The last block of a chunk, its other blocks compressed into its chain. -/
def chunkNode (counter : UInt64) : (chain : Vector UInt32 8) → (flags : UInt32) →
    List (List UInt8) → Node
  | chain, flags, [] => ⟨chain, blockWords [], counter, 0, flags ||| chunkEnd⟩
  | chain, flags, [block] =>
    ⟨chain, blockWords block, counter, block.length.toUInt32, flags ||| chunkEnd⟩
  | chain, flags, block :: blocks =>
    chunkNode counter (Node.compress ⟨chain, blockWords block, counter, 64, flags⟩) 0 blocks

/-- The block that joins two branches. -/
def parentNode (left right : Vector UInt32 8) : Node :=
  ⟨start, left ++ right, 0, 64, parent⟩

/-- The number of chunks in the left branch of a tree of `n` chunks: the largest power of two
below `n`. -/
def leftSize (n : Nat) : Nat :=
  Nat.pow 2 (n - 1).log2

theorem leftSize_pos (n : Nat) : 0 < leftSize n :=
  Nat.two_pow_pos _

theorem leftSize_lt {n : Nat} (h : 2 ≤ n) : leftSize n < n := by
  have : leftSize n ≤ n - 1 := Nat.log2_self_le (by omega)
  omega

/-- The last block of the tree over some chunks, the first of which has the number `first`. -/
def treeNode (first : Nat) (chunks : List (List UInt8)) : Node :=
  if _h : 2 ≤ chunks.length then
    let size := leftSize chunks.length
    parentNode (treeNode first (chunks.take size)).compress
      (treeNode (first + size) (chunks.drop size)).compress
  else chunkNode first.toUInt64 start chunkStart (cut 64 (chunks.headD []))
termination_by chunks.length
decreasing_by
  · have := leftSize_lt (show 2 ≤ chunks.length by assumption)
    simp only [List.length_take]
    omega
  · have := leftSize_pos chunks.length
    simp only [List.length_drop]
    omega

/-- The digest of a list of bytes. -/
def digest (bytes : List UInt8) : List UInt8 :=
  let node := treeNode 0 (cut 1024 bytes)
  let words := Node.compress { node with flags := node.flags ||| root }
  words.toList.flatMap wordBytes

/-- The digest of a list of bytes, two hexadecimal digits for each byte of it. -/
def hexDigest (bytes : List UInt8) : String :=
  String.ofList ((digest bytes).flatMap fun byte =>
    [Nat.digitChar (byte.toNat / 16), Nat.digitChar (byte.toNat % 16)])

end Statbook.Blake3
