/-!
# The ChaCha block function with eight rounds

A block of sixteen words is made from a key of eight words and the number of the block. The state is
kept as four rows of four words, on which a quarter round works column by column; the diagonal
quarter round is the same one between two rotations of the rows.

A 64-bit seed is stretched to a key by a permuted congruential generator, one word at a step.
-/

namespace Fabricate.Random

/-- Four words side by side. -/
structure Row where
  w0 : UInt32
  w1 : UInt32
  w2 : UInt32
  w3 : UInt32
  deriving DecidableEq

namespace Row

/-- The sum, word by word. -/
def add (a b : Row) : Row :=
  ⟨a.w0 + b.w0, a.w1 + b.w1, a.w2 + b.w2, a.w3 + b.w3⟩

/-- The exclusive or, word by word. -/
def xor (a b : Row) : Row :=
  ⟨a.w0 ^^^ b.w0, a.w1 ^^^ b.w1, a.w2 ^^^ b.w2, a.w3 ^^^ b.w3⟩

/-- A word turned left by a number of bits. -/
def turnWord (x : UInt32) (n : UInt32) : UInt32 :=
  (x <<< n) ||| (x >>> (32 - n))

/-- Every word turned left by a number of bits. -/
def turn (a : Row) (n : UInt32) : Row :=
  ⟨turnWord a.w0 n, turnWord a.w1 n, turnWord a.w2 n, turnWord a.w3 n⟩

/-- The words moved one place to the left, the first one to the end. -/
def shift (a : Row) : Row :=
  ⟨a.w1, a.w2, a.w3, a.w0⟩

/-- The words in order. -/
def toList (a : Row) : List UInt32 :=
  [a.w0, a.w1, a.w2, a.w3]

end Row

/-- The four rows of the state. -/
structure ChaCha where
  a : Row
  b : Row
  c : Row
  d : Row
  deriving DecidableEq

namespace ChaCha

/-- Four quarter rounds, one on each column. -/
def quarters (s : ChaCha) : ChaCha :=
  let a := s.a.add s.b
  let d := (s.d.xor a).turn 16
  let c := s.c.add d
  let b := (s.b.xor c).turn 12
  let a := a.add b
  let d := (d.xor a).turn 8
  let c := c.add d
  let b := (b.xor c).turn 7
  ⟨a, b, c, d⟩

/-- A round on the columns and a round on the diagonals. -/
def doubleRound (s : ChaCha) : ChaCha :=
  let s := s.quarters
  let s := ChaCha.quarters ⟨s.a, s.b.shift, s.c.shift.shift, s.d.shift.shift.shift⟩
  ⟨s.a, s.b.shift.shift.shift, s.c.shift.shift, s.d.shift⟩

/-- The state before the rounds: four constants, the key, the number of the block, and zeros. -/
def start (low high : Row) (block : Nat) : ChaCha where
  a := ⟨0x61707865, 0x3320646e, 0x79622d32, 0x6b206574⟩
  b := low
  c := high
  d := ⟨UInt32.ofNat block, UInt32.ofNat (block / 4294967296), 0, 0⟩

/-- The sixteen words of a block. -/
def block (low high : Row) (n : Nat) : Array UInt32 :=
  let s := start low high n
  let t := s.doubleRound.doubleRound.doubleRound.doubleRound
  ((t.a.add s.a).toList ++ (t.b.add s.b).toList ++ (t.c.add s.c).toList ++
    (t.d.add s.d).toList).toArray

end ChaCha

/-- The next state of the generator that stretches a seed. -/
def seedStep (s : UInt64) : UInt64 :=
  s * 6364136223846793005 + 11634580027462260723

/-- The word that a state of the generator gives. -/
def seedWord (s : UInt64) : UInt32 :=
  let x := (((s >>> 18) ^^^ s) >>> 27).toUInt32
  let n := (s >>> 59).toUInt32
  (x >>> n) ||| (x <<< ((32 - n) % 32))

/-- Four words of the stretched seed, and the state after them. -/
def seedRow (s : UInt64) : Row × UInt64 :=
  let s0 := seedStep s
  let s1 := seedStep s0
  let s2 := seedStep s1
  let s3 := seedStep s2
  (⟨seedWord s0, seedWord s1, seedWord s2, seedWord s3⟩, s3)

/-- The two halves of the key that a seed stretches to. -/
def keyOfSeed (seed : UInt64) : Row × Row :=
  let (low, s) := seedRow seed
  (low, (seedRow s).1)

end Fabricate.Random
