import Mathlib.Data.List.Infix
import Fabricate.Proofs.Seed.Bytes

/-!
# Seeds that are shared

The bytes behind a seed are a domain and words of one size after it, so within a domain they tell
the words (`seedBytes_injective`). Of the domains of items and of elements neither starts the other,
so the bytes tell the domain too (`seedBytes_ne`), whatever number of words follows.

Hence the bytes tell what a seed is derived for, and two seeds that are derived for different things
are equal only if two different rows of bytes have digests that begin alike. The theorems name these
two rows: that some rows collide is true of every digest, as there are more rows than digests.
-/

namespace Fabricate.Seed

/-! ### Bytes behind a seed -/

/-- Within a domain the bytes tell the words. -/
theorem seedBytes_injective (domain : List UInt8) : Function.Injective (seedBytes domain) :=
  fun _ _ same => flatMap_littleEndian_injective (List.append_cancel_left same)

/-- Bytes in domains of which neither starts the other are different. -/
theorem seedBytes_ne {domain other : List UInt8} (apart : ¬ domain <+: other)
    (apart' : ¬ other <+: domain) (parts others : List UInt64) :
    seedBytes domain parts ≠ seedBytes other others := by
  intro same
  have start : domain <+: seedBytes other others := same ▸ List.prefix_append _ _
  rcases List.prefix_or_prefix_of_prefix start (List.prefix_append _ _) with first | second
  · exact apart first
  · exact apart' second

theorem itemDomain_not_prefix : ¬ itemDomain <+: elementDomain := by
  decide +kernel

theorem elementDomain_not_prefix : ¬ elementDomain <+: itemDomain := by
  decide +kernel

theorem itemBytes_ne_elementBytes (base index token index' : UInt64) :
    itemBytes base index ≠ elementBytes token index' :=
  seedBytes_ne itemDomain_not_prefix elementDomain_not_prefix _ _

/-! ### Collisions -/

/-- The two rows of bytes are different, and their digests begin with the same eight bytes. -/
def Collide (p q : List UInt8) : Prop :=
  p ≠ q ∧ (sha256 p).bytes.take 8 = (sha256 q).bytes.take 8

theorem seed_sha256_eq_iff {p q : List UInt8} :
    (sha256 p).seed = (sha256 q).seed ↔ p = q ∨ Collide p q := by
  rw [Digest.seed_eq_iff, Collide]
  by_cases same : p = q
  · rw [same]
    exact iff_of_true rfl (.inl rfl)
  · rw [or_iff_right same, and_iff_right same]

/-! ### What a seed is derived for -/

/-- What a seed is derived for: an item of a batch, or an element of an array. -/
inductive Origin where
  | item (base index : UInt64)
  | element (token index : UInt64)
  deriving DecidableEq

/-- The bytes behind the seed. -/
def Origin.bytes : Origin → List UInt8
  | .item base index => itemBytes base index
  | .element token index => elementBytes token index

/-- The seed itself. -/
def Origin.seed : Origin → UInt64
  | .item base index => Seed.item base index
  | .element token index => Seed.element token index

theorem Origin.seed_eq (o : Origin) : o.seed = (sha256 o.bytes).seed := by
  cases o <;> rfl

theorem Origin.bytes_injective : Function.Injective Origin.bytes := by
  intro a b same
  cases a with
  | item base index =>
      cases b with
      | item base' index' =>
          cases seedBytes_injective itemDomain same
          rfl
      | element token index' => exact absurd same (itemBytes_ne_elementBytes _ _ _ _)
  | element token index =>
      cases b with
      | item base index' => exact absurd same.symm (itemBytes_ne_elementBytes _ _ _ _)
      | element token' index' =>
          cases seedBytes_injective elementDomain same
          rfl

/-- The bytes behind a seed tell what it is derived for: whether an item or an element, and which.
The seed is the beginning of their digest, so different origins share a seed exactly if the bytes
behind it collide. -/
theorem origins_share_seeds_iff (a b : Origin) :
    (a.bytes = b.bytes ↔ a = b) ∧
      littleEndian a.seed = (sha256 a.bytes).bytes.take 8 ∧
      (a.seed = b.seed ↔ a = b ∨ Collide a.bytes b.bytes) := by
  have told : a.bytes = b.bytes ↔ a = b := Origin.bytes_injective.eq_iff
  refine ⟨told, ?_, ?_⟩
  · rw [Origin.seed_eq, littleEndian_seed]
  · rw [Origin.seed_eq, Origin.seed_eq, seed_sha256_eq_iff, told]

end Fabricate.Seed
