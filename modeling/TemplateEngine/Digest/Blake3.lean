/-!
# BLAKE3

The hash of a sequence of bytes. The bytes are cut into chunks of 1024 and these into blocks of 64;
the blocks of a chunk are compressed one after another, and the chunks are the leaves of a binary
tree whose left part always holds a power of two of them. Words are little-endian.
-/

namespace TemplateEngine
namespace Digest
namespace Blake3

/-- Sixteen words: the state of a compression, or the words of a block. -/
abbrev Words := Vector UInt32 16

/-- Eight words: what one compression hands to the next. -/
abbrev Chain := Vector UInt32 8

def start : Chain :=
  #v[0x6a09e667, 0xbb67ae85, 0x3c6ef372, 0xa54ff53a, 0x510e527f, 0x9b05688c, 0x1f83d9ab, 0x5be0cd19]

/-- Where the words of a block go between two rounds. -/
def permutation : Vector (Fin 16) 16 :=
  #v[2, 6, 3, 10, 7, 0, 4, 13, 1, 11, 12, 5, 9, 14, 15, 8]

def rotate (x : UInt32) (n : UInt32) : UInt32 :=
  (x >>> n) ||| (x <<< (32 - n))

/-- Mixes two message words into four words of the state. -/
def mix (v : Words) (a b c d : Fin 16) (x y : UInt32) : Words :=
  let v := v.set a (v[a] + v[b] + x)
  let v := v.set d (rotate (v[d] ^^^ v[a]) 16)
  let v := v.set c (v[c] + v[d])
  let v := v.set b (rotate (v[b] ^^^ v[c]) 12)
  let v := v.set a (v[a] + v[b] + y)
  let v := v.set d (rotate (v[d] ^^^ v[a]) 8)
  let v := v.set c (v[c] + v[d])
  v.set b (rotate (v[b] ^^^ v[c]) 7)

def round (v m : Words) : Words :=
  let v := mix v 0 4 8 12 m[0] m[1]
  let v := mix v 1 5 9 13 m[2] m[3]
  let v := mix v 2 6 10 14 m[4] m[5]
  let v := mix v 3 7 11 15 m[6] m[7]
  let v := mix v 0 5 10 15 m[8] m[9]
  let v := mix v 1 6 11 12 m[10] m[11]
  let v := mix v 2 7 8 13 m[12] m[13]
  mix v 3 4 9 14 m[14] m[15]

/-- The given number of rounds, the message words permuted after each. -/
def rounds : Nat → Words → Words → Words
  | 0, v, _ => v
  | n + 1, v, m => rounds n (round v m) (permutation.map fun i => m[i])

structure Block where
  chain : Chain
  words : Words
  counter : UInt64
  length : UInt32
  flags : UInt32

def Block.compress (b : Block) : Chain :=
  let v := rounds 7
    (b.chain ++ #v[start[0], start[1], start[2], start[3], b.counter.toUInt32,
      (b.counter >>> 32).toUInt32, b.length, b.flags])
    b.words
  Vector.ofFn fun i => v[i.castAdd 8] ^^^ v[i.natAdd 8]

def chunkStart : UInt32 := 1

def chunkEnd : UInt32 := 2

def parent : UInt32 := 4

def root : UInt32 := 8

def word (bytes : List UInt8) : UInt32 :=
  (bytes.take 4).foldr (fun b w => (w <<< 8) ||| b.toUInt32) 0

/-- Up to sixty-four bytes as words, missing ones being zero. -/
def wordsOf (bytes : List UInt8) : Words :=
  Vector.ofFn fun i => word (bytes.drop (4 * i))

/-- A list in parts of the given size, the last one maybe shorter, as far as the fuel goes. -/
def cut {α : Type} (size : Nat) : Nat → List α → List (List α)
  | 0, _ => []
  | _, [] => []
  | fuel + 1, as => as.take size :: cut size fuel (as.drop size)

/-- The last block of a chunk, after its other blocks are compressed. -/
def chunkBlock (counter : UInt64) (chain : Chain) (flags : UInt32) : List (List UInt8) → Block
  | [] => ⟨chain, wordsOf [], counter, 0, flags ||| chunkEnd⟩
  | [bytes] => ⟨chain, wordsOf bytes, counter, bytes.length.toUInt32, flags ||| chunkEnd⟩
  | bytes :: rest =>
      let block : Block := ⟨chain, wordsOf bytes, counter, bytes.length.toUInt32, flags⟩
      chunkBlock counter block.compress 0 rest

def leaf (counter : Nat) (bytes : List UInt8) : Block :=
  chunkBlock counter.toUInt64 start chunkStart (cut 64 16 bytes)

def join (left right : Block) : Block :=
  ⟨start, left.compress ++ right.compress, 0, 64, parent⟩

/-- The largest power of two below a number greater than one. -/
def leftSize (n : Nat) : Nat :=
  Nat.pow 2 (n - 1).log2

/-- The tree over some leaves; the fuel bounds its height. -/
def tree (fallback : Block) : Nat → List Block → Block
  | 0, _ => fallback
  | _, [] => fallback
  | _, [leaf] => leaf
  | fuel + 1, leaves =>
      let size := leftSize leaves.length
      join (tree fallback fuel (leaves.take size)) (tree fallback fuel (leaves.drop size))

/-- The first eight words of the hash. -/
def hash (bytes : List UInt8) : Chain :=
  let chunks := cut 1024 (bytes.length / 1024 + 1) bytes
  let leaves := chunks.zipIdx.map fun (chunk, i) => leaf i chunk
  let top := tree (leaf 0 []) (leaves.length + 1) leaves
  { top with flags := top.flags ||| root }.compress

/-- A word in base sixteen, the byte of lowest weight first. -/
def wordText (w : UInt32) : List Char :=
  [0, 8, 16, 24].flatMap fun (shift : UInt32) =>
    let byte := (w >>> shift).toNat % 256
    [Nat.digitChar (byte / 16), Nat.digitChar (byte % 16)]

/-- The first eight bytes of the hash of a text, in base sixteen. -/
def shortText (s : String) : String :=
  let h := hash s.toUTF8.toList
  String.ofList (wordText h[0] ++ wordText h[1])

end Blake3
end Digest
end TemplateEngine
