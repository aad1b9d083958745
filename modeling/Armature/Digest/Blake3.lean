/-!
The BLAKE3 hash. A message is cut into chunks of 1024 octets and a chunk into blocks of 64; chunk
values are joined in pairs, level by level, an odd one at the end moving up unchanged.
-/

namespace Armature.Blake3

abbrev Chain := Vector UInt32 8

abbrev Block := Vector UInt32 16

def initial : Chain :=
  #v[0x6A09E667, 0xBB67AE85, 0x3C6EF372, 0xA54FF53A, 0x510E527F, 0x9B05688C, 0x1F83D9AB, 0x5BE0CD19]

/-- The roles of a block, one bit each. -/
def chunkStart : UInt32 := 1

def chunkEnd : UInt32 := 2

def parent : UInt32 := 4

def root : UInt32 := 8

def rotateRight (word : UInt32) (count : UInt32) : UInt32 :=
  (word >>> count) ||| (word <<< (32 - count))

def quarter (state : Block) (a b c d : Fin 16) (m n : UInt32) : Block :=
  let va := state[a] + state[b] + m
  let vd := rotateRight (state[d] ^^^ va) 16
  let vc := state[c] + vd
  let vb := rotateRight (state[b] ^^^ vc) 12
  let va := va + vb + n
  let vd := rotateRight (vd ^^^ va) 8
  let vc := vc + vd
  let vb := rotateRight (vb ^^^ vc) 7
  (((state.set a va).set b vb).set c vc).set d vd

def round (state m : Block) : Block :=
  let state := quarter state 0 4 8 12 m[0] m[1]
  let state := quarter state 1 5 9 13 m[2] m[3]
  let state := quarter state 2 6 10 14 m[4] m[5]
  let state := quarter state 3 7 11 15 m[6] m[7]
  let state := quarter state 0 5 10 15 m[8] m[9]
  let state := quarter state 1 6 11 12 m[10] m[11]
  let state := quarter state 2 7 8 13 m[12] m[13]
  quarter state 3 4 9 14 m[14] m[15]

def schedule : Vector (Fin 16) 16 := #v[2, 6, 3, 10, 7, 0, 4, 13, 1, 11, 12, 5, 9, 14, 15, 8]

def permute (m : Block) : Block := schedule.map (m[·])

def rounds : Nat → (state m : Block) → Block
  | 0, state, _ => state
  | count + 1, state, m => rounds count (round state m) (permute m)

def compress (chain : Chain) (block : Block) (counter length flags : UInt32) : Chain :=
  let start : Block :=
    #v[chain[0], chain[1], chain[2], chain[3], chain[4], chain[5], chain[6], chain[7],
      initial[0], initial[1], initial[2], initial[3], counter, 0, length, flags]
  let final := rounds 7 start block
  Vector.ofFn fun (i : Fin 8) => final[i.val] ^^^ final[i.val + 8]

/-- The word of four octets, the least significant first, with zeros past the end. -/
def word (input : ByteArray) (offset limit : Nat) : UInt32 :=
  let octet (i : Nat) : UInt32 :=
    if h : offset + i < input.size then
      if offset + i < limit then input[offset + i].toUInt32 else 0
    else 0
  octet 0 ||| (octet 1 <<< 8) ||| (octet 2 <<< 16) ||| (octet 3 <<< 24)

def block (input : ByteArray) (offset limit : Nat) : Block :=
  Vector.ofFn fun (i : Fin 16) => word input (offset + 4 * i.val) limit

/-- The value of a chunk from one of its blocks on. `flags` go with the block that ends it. -/
def chunkFrom (input : ByteArray) (counter flags : UInt32) (limit : Nat) :
    (blocks offset : Nat) → (first : Bool) → Chain → Chain
  | 0, _, _, chain => chain
  | 1, offset, first, chain =>
    let start := if first then chunkStart else 0
    compress chain (block input offset limit) counter (limit - offset).toUInt32
      (start ||| chunkEnd ||| flags)
  | blocks + 1, offset, first, chain =>
    let start := if first then chunkStart else 0
    chunkFrom input counter flags limit blocks (offset + 64) false
      (compress chain (block input offset limit) counter 64 start)

def chunk (input : ByteArray) (index : Nat) (flags : UInt32) : Chain :=
  let offset := 1024 * index
  let limit := min input.size (offset + 1024)
  chunkFrom input index.toUInt32 flags limit (max 1 ((limit - offset + 63) / 64)) offset true initial

def join (left right : Chain) (flags : UInt32) : Chain :=
  compress initial ((left ++ right).cast rfl) 0 64 (parent ||| flags)

def joinPairs : List Chain → List Chain
  | left :: right :: rest => join left right 0 :: joinPairs rest
  | rest => rest

theorem length_joinPairs_le (values : List Chain) : (joinPairs values).length ≤ values.length := by
  fun_induction joinPairs values with
  | case1 left right rest ih => simp only [List.length_cons]; omega
  | case2 => exact Nat.le_refl _

def tree (left right : Chain) : (rest : List Chain) → Chain
  | [] => join left right root
  | next :: rest =>
    match h : joinPairs (next :: rest) with
    | [] => join left right root
    | value :: values =>
      have hlt : values.length < (next :: rest).length := by
        have hle := length_joinPairs_le (next :: rest)
        rwa [h] at hle
      tree (join left right 0) value values
termination_by rest => rest.length
decreasing_by exact hlt

def hash (input : ByteArray) : Chain :=
  match (List.range ((input.size + 1023) / 1024)).map (chunk input · 0) with
  | left :: right :: rest => tree left right rest
  | _ => chunk input 0 root

def wordHex (word : UInt32) : List Char :=
  [4, 0, 12, 8, 20, 16, 28, 24].map fun shift => Nat.digitChar ((word.toNat >>> shift) % 16)

def hex (input : ByteArray) : String := String.ofList ((hash input).toList.flatMap wordHex)

def hexOfText (s : String) : String := hex s.toUTF8

end Armature.Blake3
