import Fabricate.Random.ChaCha

/-!
# Random streams

A stream is an endless row of 32-bit words and the number of words already used; drawing moves on
and never runs out. Statements about all draws are statements about all rows of words.

A number below `n` is drawn by one multiplication: the high half of the product of a word and `n`
is the answer, and a second word decides a carry when the low half is too near to its end for the
first word to tell. A 64-bit word is made of two 32-bit ones, the low one first.
-/

namespace Fabricate.Random

/-- An endless row of words, of which some are used. -/
structure Stream where
  word : Nat → UInt32
  used : Nat

/-- The stream that a seed determines. The first block is made once. -/
def Stream.ofSeed (seed : UInt64) : Stream :=
  let (low, high) := keyOfSeed seed
  let first := ChaCha.block low high 0
  { word := fun i =>
      if i < 16 then first.getD i 0 else (ChaCha.block low high (i / 16)).getD (i % 16) 0
    used := 0 }

/-- A computation that draws from a stream. -/
abbrev Draw := StateM Stream

/-- The next word. -/
def next32 : Draw UInt32 := fun s =>
  (s.word s.used, { s with used := s.used + 1 })

/-- The next two words as one, the first of them low. -/
def next64 : Draw UInt64 := do
  let low ← next32
  let high ← next32
  return low.toUInt64 ||| (high.toUInt64 <<< 32)

/-- A number below `n`, from words below `bound`. A second word is drawn only when the low half of
the product is within `n` of its end. -/
def scaled (bound : Nat) (draw : Draw Nat) (n : Nat) : Draw Nat := do
  let product := (← draw) * n
  let high := product / bound
  let low := product % bound
  if bound - n < low then
    let carry := (← draw) * n / bound
    return if bound ≤ low + carry then high + 1 else high
  else return high

/-- A number below `n`, from 32-bit words. -/
def below32 (n : Nat) : Draw Nat :=
  scaled 4294967296 (do return (← next32).toNat) n

/-- A number below `n`, from 64-bit words. -/
def below64 (n : Nat) : Draw Nat :=
  scaled 18446744073709551616 (do return (← next64).toNat) n

/-- A number from `lo` to `hi`, both included, from 64-bit words. -/
def between64 (lo hi : Int) : Draw Int := do
  return lo + (← below64 (hi - lo + 1).toNat)

/-- One of the items, each as likely; nothing is drawn from an empty row. -/
def pick? {α : Type} (items : Array α) : Draw (Option α) := do
  if items.isEmpty then return none
  else return items[← below32 items.size]?

/-- A real from `lo` up to `hi`, from the 52 high bits of a word, with two roundings. -/
def realBetween (lo hi : Float) : Draw Float := do
  let u := ((← next64) >>> 12).toFloat / 4503599627370496.0
  return u * (hi - lo) + lo

/-- True with the given probability; a certain event is not drawn. -/
def happens (p : Float) : Draw Bool := do
  if p == 1.0 then return true
  else return (← next64) < (p * 18446744073709551616.0).toUInt64

/-- A draw repeated, with the answers in order. -/
def repeated {α : Type} (draw : Draw α) : Nat → Draw (List α)
  | 0 => return []
  | n + 1 => do
      let a ← draw
      let rest ← repeated draw n
      return a :: rest

/-- The answer of a draw from a stream. -/
def Draw.answer {α : Type} (draw : Draw α) (s : Stream) : α :=
  (draw.run s).1

end Fabricate.Random
