/-! Random numbers: ChaCha with twelve rounds, whose key is drawn from a 64-bit seed by steps of a
permuted congruential generator. -/

namespace Awk

/-- A generator: its key, and how many words of its stream have been taken. -/
structure Random where
  key : List UInt32
  taken : Nat
  deriving Repr, DecidableEq

namespace Random

def rotateLeft (x : UInt32) (n : UInt32) : UInt32 := (x <<< n) ||| (x >>> (32 - n))

def rotateRight (x : UInt32) (n : UInt32) : UInt32 := if n = 0 then x else rotateLeft x (32 - n)

/-- Words of the congruential generator from a state. -/
def seedWords : Nat → UInt64 → List UInt32
  | 0, _ => []
  | n + 1, state =>
    let state := state * 6364136223846793005 + 11634580027462260723
    let shifted := (((state >>> 18) ^^^ state) >>> 27).toUInt32
    rotateRight shifted (state >>> 59).toUInt32 :: seedWords n state

/-- A generator at the start of its stream. -/
def ofSeed (seed : UInt64) : Random := ⟨seedWords 8 seed, 0⟩

/-- One quarter round on four words of a block. -/
def quarterRound (block : Array UInt32) (a b c d : Nat) : Array UInt32 :=
  let va := block.getD a 0
  let vb := block.getD b 0
  let vc := block.getD c 0
  let vd := block.getD d 0
  let va := va + vb
  let vd := rotateLeft (vd ^^^ va) 16
  let vc := vc + vd
  let vb := rotateLeft (vb ^^^ vc) 12
  let va := va + vb
  let vd := rotateLeft (vd ^^^ va) 8
  let vc := vc + vd
  let vb := rotateLeft (vb ^^^ vc) 7
  (((block.set! a va).set! b vb).set! c vc).set! d vd

/-- The places of a column round and a diagonal round. -/
def quarters : List (Nat × Nat × Nat × Nat) :=
  [(0, 4, 8, 12), (1, 5, 9, 13), (2, 6, 10, 14), (3, 7, 11, 15),
   (0, 5, 10, 15), (1, 6, 11, 12), (2, 7, 8, 13), (3, 4, 9, 14)]

def doubleRound (block : Array UInt32) : Array UInt32 :=
  quarters.foldl (fun block (a, b, c, d) => quarterRound block a b c d) block

/-- The block of sixteen words at a count. -/
def block (key : List UInt32) (count : Nat) : Array UInt32 :=
  let constants : List UInt32 := [0x61707865, 0x3320646e, 0x79622d32, 0x6b206574]
  let counter : List UInt32 := [count.toUInt32, (count >>> 32).toUInt32, 0, 0]
  let start := (constants ++ key ++ counter).toArray
  (Nat.repeat doubleRound 6 start).zipWith (· + ·) start

/-- A number that is at least 0 and less than 1, with 53 random bits. The two words that it takes
lie in one block. -/
def next (r : Random) : Float × Random :=
  let words := block r.key (r.taken / 16)
  let low := (words.getD (r.taken % 16) 0).toUInt64
  let high := (words.getD (r.taken % 16 + 1) 0).toUInt64
  let bits := ((high <<< 32) ||| low) >>> 11
  (bits.toFloat * 1.1102230246251565e-16, { r with taken := r.taken + 2 })

end Random

end Awk
