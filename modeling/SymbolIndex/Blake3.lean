/-! # The BLAKE3 digest

The content is cut into chunks of 1024 bytes, each a chain of blocks of 64 bytes. Chunks are joined
in a binary tree whose left subtrees are full and as large as can be. The digest is the value of the
root. A block is compressed in seven rounds over a state of sixteen words, each followed by a fixed
permutation of the message.
-/
namespace SymbolIndex.Blake3

abbrev State := Vector UInt32 16

abbrev ChainingValue := Vector UInt32 8

def initial : ChainingValue :=
  #v[0x6A09E667, 0xBB67AE85, 0x3C6EF372, 0xA54FF53A, 0x510E527F, 0x9B05688C, 0x1F83D9AB, 0x5BE0CD19]

def rotateRight (w n : UInt32) : UInt32 := (w >>> n) ||| (w <<< (32 - n))

def mix (v : State) (a b c d : Fin 16) (x y : UInt32) : State :=
  let va := v[a] + v[b] + x
  let vd := rotateRight (v[d] ^^^ va) 16
  let vc := v[c] + vd
  let vb := rotateRight (v[b] ^^^ vc) 12
  let va := va + vb + y
  let vd := rotateRight (vd ^^^ va) 8
  let vc := vc + vd
  let vb := rotateRight (vb ^^^ vc) 7
  (((v.set a va).set b vb).set c vc).set d vd

def round (v m : State) : State :=
  let v := mix v 0 4 8 12 m[0] m[1]
  let v := mix v 1 5 9 13 m[2] m[3]
  let v := mix v 2 6 10 14 m[4] m[5]
  let v := mix v 3 7 11 15 m[6] m[7]
  let v := mix v 0 5 10 15 m[8] m[9]
  let v := mix v 1 6 11 12 m[10] m[11]
  let v := mix v 2 7 8 13 m[12] m[13]
  mix v 3 4 9 14 m[14] m[15]

def permute (m : State) : State :=
  #v[m[2], m[6], m[3], m[10], m[7], m[0], m[4], m[13],
    m[1], m[11], m[12], m[5], m[9], m[14], m[15], m[8]]

def rounds : Nat → State → State → State
  | 0, v, _ => v
  | n + 1, v, m => rounds n (round v m) (permute m)

def compress (cv : ChainingValue) (block : State) (counter : UInt64) (length flags : UInt32) :
    ChainingValue :=
  let v := rounds 7
    #v[cv[0], cv[1], cv[2], cv[3], cv[4], cv[5], cv[6], cv[7],
      initial[0], initial[1], initial[2], initial[3],
      counter.toUInt32, (counter >>> 32).toUInt32, length, flags] block
  Vector.ofFn fun i : Fin 8 => v[i.val] ^^^ v[i.val + 8]

def chunkStart : UInt32 := 1
def chunkEnd : UInt32 := 2
def parentFlag : UInt32 := 4
def rootFlag : UInt32 := 8

/-- Up to four bytes, the least significant first. -/
def littleEndian (bytes : List UInt8) : UInt32 :=
  bytes.foldr (fun b w => b.toUInt32 ||| (w <<< 8)) 0

def blockWords (bytes : List UInt8) : State :=
  Vector.ofFn fun i : Fin 16 => littleEndian ((bytes.drop (4 * i)).take 4)

/-- Cuts a list into pieces of `size`, the last one shorter; an empty list is one empty piece. -/
def pieces {α : Type} (size : Nat) (xs : List α) : List (List α) :=
  if _h : size = 0 ∨ xs.length ≤ size then [xs]
  else xs.take size :: pieces size (xs.drop size)
termination_by xs.length
decreasing_by simp only [List.length_drop]; omega

/-- The last compression of a subtree, not yet done: the root does it with a flag of its own. -/
structure Node where
  chaining : ChainingValue
  block : State
  counter : UInt64
  length : UInt32
  flags : UInt32

def Node.value (n : Node) (extra : UInt32) : ChainingValue :=
  compress n.chaining n.block n.counter n.length (n.flags ||| extra)

def chainBlocks (counter : UInt64) (cv : ChainingValue) (flags : UInt32) :
    List (List UInt8) → Node
  | [] => ⟨cv, blockWords [], counter, 0, flags ||| chunkEnd⟩
  | [last] => ⟨cv, blockWords last, counter, UInt32.ofNat last.length, flags ||| chunkEnd⟩
  | block :: blocks =>
    chainBlocks counter (compress cv (blockWords block) counter 64 flags) 0 blocks

def chunkNode (index : Nat) (chunk : List UInt8) : Node :=
  chainBlocks (UInt64.ofNat index) initial chunkStart (pieces 64 chunk)

def parentNode (left right : Node) : Node :=
  ⟨initial, (left.value 0 ++ right.value 0).cast rfl, 0, 64, parentFlag⟩

/-- The largest power of two below `n`, for `n` of two or more. -/
def leftSize (n : Nat) : Nat := Nat.pow 2 (n - 1).log2

theorem leftSize_pos (n : Nat) : 0 < leftSize n := Nat.two_pow_pos _

theorem leftSize_lt {n : Nat} (h : 2 ≤ n) : leftSize n < n := by
  have : leftSize n ≤ n - 1 := Nat.log2_self_le (by omega)
  omega

def tree (index : Nat) (chunks : List (List UInt8)) : Node :=
  if _h : chunks.length < 2 then chunkNode index (chunks.headD [])
  else
    let left := leftSize chunks.length
    parentNode (tree index (chunks.take left)) (tree (index + left) (chunks.drop left))
termination_by chunks.length
decreasing_by
  all_goals
    have := leftSize_lt (n := chunks.length) (by omega)
    have := leftSize_pos chunks.length
    simp only [List.length_take, List.length_drop]
    omega

def digest (content : List UInt8) : Vector UInt8 32 :=
  let words := (tree 0 (pieces 1024 content)).value rootFlag
  Vector.ofFn fun i : Fin 32 => (words[i.val / 4] >>> UInt32.ofNat (8 * (i.val % 4))).toUInt8

end SymbolIndex.Blake3
