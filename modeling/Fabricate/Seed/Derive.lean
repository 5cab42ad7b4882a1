import Fabricate.Seed.Sha256

/-!
# Derived seeds

A seed is derived from a domain and a row of words: the words are written in little-endian order
after the domain, and the first eight bytes of the digest, read in the same order, are the seed.
Items of a batch and elements of an array have domains of their own, neither of which starts the
other.
-/

namespace Fabricate.Seed

/-- The eight bytes of a word, the lowest first. -/
def littleEndian (n : UInt64) : List UInt8 :=
  lowBytes 8 n.toNat

/-- The bytes whose digest gives the seed. -/
def seedBytes (domain : List UInt8) (parts : List UInt64) : List UInt8 :=
  domain ++ parts.flatMap littleEndian

/-- A word with its bytes in the opposite order. -/
def swapBytes (x : UInt32) : UInt32 :=
  (x >>> 24) ||| ((x >>> 8) &&& (0xff00 : UInt32)) ||| ((x <<< 8) &&& (0xff0000 : UInt32)) |||
    (x <<< 24)

/-- The first eight bytes of a digest as a word, the lowest first. -/
def Digest.seed (s : Digest) : UInt64 :=
  (swapBytes s.a).toUInt64 ||| ((swapBytes s.b).toUInt64 <<< 32)

/-- The seed of a row of words in a domain. -/
def derive (domain : List UInt8) (parts : List UInt64) : UInt64 :=
  (sha256 (seedBytes domain parts)).seed

/-- The domain of the items of a batch. -/
def itemDomain : List UInt8 :=
  "phoney.item.v1".toUTF8.toList

/-- The domain of the elements of an array. -/
def elementDomain : List UInt8 :=
  "phoney.element.v1".toUTF8.toList

/-- The bytes behind the seed of an item. -/
def itemBytes (base index : UInt64) : List UInt8 :=
  seedBytes itemDomain [base, index]

/-- The bytes behind the seed of an element. -/
def elementBytes (token index : UInt64) : List UInt8 :=
  seedBytes elementDomain [token, index]

/-- The seed of an item of a batch. -/
def item (base index : UInt64) : UInt64 :=
  (sha256 (itemBytes base index)).seed

/-- The seed of an element of an array. -/
def element (token index : UInt64) : UInt64 :=
  (sha256 (elementBytes token index)).seed

end Fabricate.Seed
