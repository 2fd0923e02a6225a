import Stackwright.Json.Printer
import Stackwright.Template

/-!
# Fingerprints

Two templates with the same fingerprint are taken to be the same document. The fingerprint is the
BLAKE3 hash of the compact JSON text. Its bytes are cut into chunks of 1024, each chunk into blocks
of 64; a chunk is a chain of compressed blocks, and the chunks are the leaves of a tree whose left
branches hold as many chunks as a power of two can.
-/

namespace Stackwright.Blake3

abbrev Words (n : Nat) := Vector UInt32 n

/-- The chaining value that every hash starts from. -/
def start : Words 8 :=
  #v[0x6A09E667, 0xBB67AE85, 0x3C6EF372, 0xA54FF53A, 0x510E527F, 0x9B05688C, 0x1F83D9AB,
    0x5BE0CD19]

/-- The order in which a round takes the words of the round before. -/
def schedule : Vector (Fin 16) 16 := #v[2, 6, 3, 10, 7, 0, 4, 13, 1, 11, 12, 5, 9, 14, 15, 8]

def rotateRight (x n : UInt32) : UInt32 := (x >>> n) ||| (x <<< (32 - n))

/-- Mixes two message words into four words of the state. -/
def mix (v : Words 16) (a b c d : Fin 16) (x y : UInt32) : Words 16 :=
  let va := v[a] + v[b] + x
  let vd := rotateRight (v[d] ^^^ va) 16
  let vc := v[c] + vd
  let vb := rotateRight (v[b] ^^^ vc) 12
  let va := va + vb + y
  let vd := rotateRight (vd ^^^ va) 8
  let vc := vc + vd
  let vb := rotateRight (vb ^^^ vc) 7
  (((v.set a va).set b vb).set c vc).set d vd

/-- One round: the columns of the state, then its diagonals. -/
def round (v m : Words 16) : Words 16 :=
  let v := mix v 0 4 8 12 m[0] m[1]
  let v := mix v 1 5 9 13 m[2] m[3]
  let v := mix v 2 6 10 14 m[4] m[5]
  let v := mix v 3 7 11 15 m[6] m[7]
  let v := mix v 0 5 10 15 m[8] m[9]
  let v := mix v 1 6 11 12 m[10] m[11]
  let v := mix v 2 7 8 13 m[12] m[13]
  mix v 3 4 9 14 m[14] m[15]

/-- The given number of rounds, the message permuted between them. -/
def rounds : Nat → Words 16 → Words 16 → Words 16
  | 0, v, _ => v
  | n + 1, v, m => rounds n (round v m) (schedule.map fun i => m[i])

/-- What a node feeds to the compression function. -/
structure Node where
  chaining : Words 8
  block : Words 16
  counter : Nat
  length : Nat
  flags : UInt32

def chunkStart : UInt32 := 1
def chunkEnd : UInt32 := 2
def parentFlag : UInt32 := 4
def rootFlag : UInt32 := 8

/-- The first half of the compressed state. -/
def Node.output (n : Node) (extra : UInt32) : Words 8 :=
  let v : Words 16 :=
    #v[n.chaining[0], n.chaining[1], n.chaining[2], n.chaining[3], n.chaining[4], n.chaining[5],
      n.chaining[6], n.chaining[7], start[0], start[1], start[2], start[3],
      UInt32.ofNat n.counter, UInt32.ofNat (n.counter / Nat.pow 2 32), UInt32.ofNat n.length,
      n.flags ||| extra]
  let v := rounds 7 v n.block
  Vector.ofFn fun (i : Fin 8) => v[i.val] ^^^ v[i.val + 8]

/-- The value passed up the tree or along a chunk. -/
def Node.chain (n : Node) : Words 8 := n.output 0

/-- A word from the four bytes at its place, least significant first; missing bytes are zero. -/
def wordAt (bytes : List UInt8) (i : Nat) : UInt32 :=
  let byte := fun k => (bytes[4 * i + k]?.getD 0).toUInt32
  byte 0 ||| (byte 1 <<< 8) ||| (byte 2 <<< 16) ||| (byte 3 <<< 24)

def blockWords (bytes : List UInt8) : Words 16 := Vector.ofFn fun i => wordAt bytes i.val

/-- The last node of the chunk that starts with the given chaining value and flags. -/
def chunkNode (counter : Nat) (chaining : Words 8) (flags : UInt32) (bytes : List UInt8) : Node :=
  let node : Node := ⟨chaining, blockWords (bytes.take 64), counter, min 64 bytes.length, flags⟩
  if bytes.length ≤ 64 then { node with flags := flags ||| chunkEnd }
  else chunkNode counter node.chain 0 (bytes.drop 64)
termination_by bytes.length
decreasing_by simp only [List.length_drop]; omega

def parentNode (left right : Words 8) : Node :=
  ⟨start, left ++ right, 0, 64, parentFlag⟩

/-- The number of bytes in the left branch over more than one chunk: the largest power of two of
chunks that leaves something to the right. -/
def leftLength (length : Nat) : Nat := 1024 * Nat.pow 2 ((length - 1) / 1024).log2

theorem leftLength_lt {length : Nat} (large : 1024 < length) : leftLength length < length := by
  have chunks : (length - 1) / 1024 ≠ 0 := by omega
  have bound := Nat.log2_self_le chunks
  have whole := Nat.div_mul_le_self (length - 1) 1024
  rw [leftLength, Nat.pow_eq]
  omega

theorem leftLength_pos (length : Nat) : 0 < leftLength length := by
  have := Nat.two_pow_pos ((length - 1) / 1024).log2
  rw [leftLength, Nat.pow_eq]
  omega

/-- The top node over the bytes, the first chunk of which has the given number. -/
def treeNode (counter : Nat) (bytes : List UInt8) : Node :=
  if large : 1024 < bytes.length then
    have := leftLength_lt large
    have := leftLength_pos bytes.length
    let left := leftLength bytes.length
    parentNode (treeNode counter (bytes.take left)).chain
      (treeNode (counter + left / 1024) (bytes.drop left)).chain
  else chunkNode counter start chunkStart bytes
termination_by bytes.length
decreasing_by
  · simp only [List.length_take]; omega
  · simp only [List.length_drop]; omega

/-- The 32 bytes of the hash. -/
def hash (bytes : List UInt8) : List UInt8 :=
  ((treeNode 0 bytes).output rootFlag).toList.flatMap fun (w : UInt32) =>
    [w.toUInt8, (w >>> 8).toUInt8, (w >>> 16).toUInt8, (w >>> 24).toUInt8]

def hexByte (b : UInt8) : String :=
  let digit := fun (n : Nat) => if n < 10 then Char.ofNat (48 + n) else Char.ofNat (87 + n)
  String.ofList [digit (b.toNat / 16), digit (b.toNat % 16)]

/-- The hash of a text in UTF-8, in hexadecimal. -/
def hexHash (text : String) : String :=
  String.join ((hash text.toUTF8.toList).map hexByte)

end Stackwright.Blake3

namespace Stackwright.Template

/-- The hash of the compact JSON text. -/
def fingerprint (t : Template) : String := "blake3:" ++ Blake3.hexHash t.toJson.compact

end Stackwright.Template
