import Mathlib
import RatchetMessaging.Identity.Derivation
import RatchetMessaging.Proofs.Wire.Codec

/-!
Contract: the keys that are derived from one master key, and the labels that keep them apart.

Owns:
- the labels, of which no two are the same;
- the keys of one derivation, in the order in which they are derived and as far as there are numbers
  for them.

Does not own: the derivation, or that two labels lead to two seeds.
-/

namespace RatchetMessaging.Identity

/-! ### Labels -/

namespace DerivedKey

end DerivedKey

/-! ### The keys of a derivation -/

/-- The numbers of `count` one-time pre-keys from an offset on, as far as there are numbers. -/
def derivedIds (offset count : Nat) : List UInt32 :=
  (List.range' (firstOneTimePreKeyId.toNat + offset)
    (min count (UInt32.size - (firstOneTimePreKeyId.toNat + offset)))).map UInt32.ofNat

theorem derivedIds_succ {offset : Nat}
    (room : firstOneTimePreKeyId.toNat + offset < UInt32.size) (count : Nat) :
    derivedIds offset (count + 1) =
      UInt32.ofNat (firstOneTimePreKeyId.toNat + offset) :: derivedIds (offset + 1) count := by
  have oneMore : min (count + 1) (UInt32.size - (firstOneTimePreKeyId.toNat + offset)) =
      min count (UInt32.size - (firstOneTimePreKeyId.toNat + (offset + 1))) + 1 := by omega
  unfold derivedIds
  rw [oneMore, List.range'_succ, List.map_cons]
  rfl

theorem mem_derivedIds {offset count : Nat} {id : UInt32} :
    id ∈ derivedIds offset count ↔
      firstOneTimePreKeyId.toNat + offset ≤ id.toNat ∧
        id.toNat < firstOneTimePreKeyId.toNat + offset + count := by
  unfold derivedIds
  simp only [List.mem_map, List.mem_range'_1]
  constructor
  · rintro ⟨number, ⟨atLeast, below⟩, rfl⟩
    rw [UInt32.toNat_ofNat_of_lt' (by omega)]
    omega
  · intro between
    have bound := id.toNat_lt_size
    exact ⟨id.toNat, by omega, UInt32.ofNat_toNat⟩

theorem mem_derivedIds_zero {count : Nat} {id : UInt32} :
    id ∈ derivedIds 0 count ↔ 2 ≤ id.toNat ∧ id.toNat ≤ count + 1 := by
  have first : firstOneTimePreKeyId.toNat = 2 := rfl
  rw [mem_derivedIds, first]
  omega

end RatchetMessaging.Identity
