/-!
# `Vignette.Random.Keystream`: the words of a seeded keystream

A keystream turns a 64-bit seed into an endless sequence of 32-bit words. The
seed grows into a key of eight words through a linear congruential generator
with permuted output. Block after block, the key and a 64-bit block counter go
through twelve ChaCha rounds, and the sixteen words of each block are handed
out in order. A 64-bit word is two words of the sequence, the low half first.
-/

set_option autoImplicit false

namespace Vignette.Random

/-- Rotation to the left, `k` taken modulo 32. -/
def rotateLeft (x k : UInt32) : UInt32 :=
  (x <<< k) ||| (x >>> (32 - k))

/-! ### From a seed to a key -/

/-- One step of the congruential generator. -/
def seedStep (state : UInt64) : UInt64 :=
  state * 6364136223846793005 + 11634580027462260723

/-- The word that a generator state shows: its folded upper bits, rotated right
by the topmost five. -/
def seedWord (state : UInt64) : UInt32 :=
  let folded := (((state >>> 18) ^^^ state) >>> 27).toUInt32
  let turn : UInt32 := (state >>> 59).toUInt32
  rotateLeft folded (32 - turn)

/-- The next `n` key words after a generator state. -/
def keyWords : Nat → UInt64 → List UInt32
  | 0, _ => []
  | n + 1, state =>
    let state := seedStep state
    seedWord state :: keyWords n state

/-! ### Blocks -/

/-- The sixteen words of a cipher state. -/
abbrev Block := Vector UInt32 16

/-- Mixes four words of a block. -/
def quarterRound (a b c d : Fin 16) (v : Block) : Block :=
  let v := v.set a (v[a] + v[b])
  let v := v.set d (rotateLeft (v[d] ^^^ v[a]) 16)
  let v := v.set c (v[c] + v[d])
  let v := v.set b (rotateLeft (v[b] ^^^ v[c]) 12)
  let v := v.set a (v[a] + v[b])
  let v := v.set d (rotateLeft (v[d] ^^^ v[a]) 8)
  let v := v.set c (v[c] + v[d])
  v.set b (rotateLeft (v[b] ^^^ v[c]) 7)

/-- A round over the columns, then a round over the diagonals. -/
def doubleRound (v : Block) : Block :=
  let v := quarterRound 0 4 8 12 v
  let v := quarterRound 1 5 9 13 v
  let v := quarterRound 2 6 10 14 v
  let v := quarterRound 3 7 11 15 v
  let v := quarterRound 0 5 10 15 v
  let v := quarterRound 1 6 11 12 v
  let v := quarterRound 2 7 8 13 v
  quarterRound 3 4 9 14 v

/-- The state before the first round: four constants, the key, the block
counter in two halves, and a zero nonce. Missing key words count as zero. -/
def initialBlock (key : List UInt32) (counter : UInt64) : Block :=
  Vector.ofFn fun i =>
    -- The constants spell "expand 32-byte k", four bytes a word.
    if i.val < 4 then [0x61707865, 0x3320646e, 0x79622d32, 0x6b206574].getD i.val 0
    else if i.val < 12 then key.getD (i.val - 4) 0
    else if i.val = 12 then counter.toUInt32
    else if i.val = 13 then (counter >>> 32).toUInt32
    else 0

/-- The sixteen words of the block numbered `counter`. -/
def blockWords (key : List UInt32) (counter : UInt64) : List UInt32 :=
  let start := initialBlock key counter
  let mixed := Nat.repeat doubleRound 6 start
  (Vector.zipWith (· + ·) mixed start).toList

/-! ### The stream -/

/-- A position in a keystream. -/
structure Keystream where
  key : List UInt32
  /-- The number of the next block to compute. -/
  counter : UInt64
  /-- The words of the current block that are not taken yet. -/
  pending : List UInt32

namespace Keystream

/-- The start of the stream that a seed determines. -/
def ofSeed (seed : UInt64) : Keystream :=
  ⟨keyWords 8 seed, 0, []⟩

/-- Takes the next 32-bit word. -/
def next32 (k : Keystream) : UInt32 × Keystream :=
  match k.pending with
  | word :: pending => (word, { k with pending })
  | [] =>
    match blockWords k.key k.counter with
    | word :: pending => (word, { k with counter := k.counter + 1, pending })
    | [] => (0, k)

/-- Takes the next 64-bit word, its low half first. -/
def next64 (k : Keystream) : UInt64 × Keystream :=
  let (low, k) := k.next32
  let (high, k) := k.next32
  (low.toUInt64 ||| (high.toUInt64 <<< 32), k)

end Keystream

end Vignette.Random
