import Mathlib.Algebra.Group.Nat.Defs
import RatchetMessaging.Wire.Cursor

/-!
Contract: what was written is read back, one number or byte string at a time.

Owns:
- `Reads`, for a step that consumes exactly the given bytes, whatever follows them, and its
  composition along a sequence of steps;
- numbers, of ten bytes at most, keys of fields and byte strings behind their length.

Does not own: fields and records.
-/

namespace RatchetMessaging.Wire

variable {α β : Type}

/-- The step consumes exactly the bytes and gives the value, whatever follows. -/
def Reads (step : Read α) (bytes : Bytes) (value : α) : Prop :=
  ∀ rest, step (Cursor.start (bytes ++ rest)) = .ok (value, Cursor.start rest)

namespace Reads

theorem pure (value : α) : Reads (Pure.pure value) [] value := fun _ => rfl

theorem bind {first : Read α} {next : α → Read β} {bytes following : Bytes} {middle : α}
    {value : β} (firstReads : Reads first bytes middle)
    (nextReads : Reads (next middle) following value) :
    Reads (first >>= next) (bytes ++ following) value := by
  intro rest
  change (first (Cursor.start (bytes ++ following ++ rest)) >>= fun found => next found.1 found.2) =
    _
  rw [List.append_assoc, firstReads]
  exact nextReads rest

/-- What follows the last byte is computed. -/
theorem map {first : Read α} {bytes : Bytes} {middle : α} (firstReads : Reads first bytes middle)
    (next : α → β) :
    Reads (first >>= fun value => Pure.pure (next value)) bytes (next middle) := by
  rw [← List.append_nil bytes]
  exact firstReads.bind (Reads.pure (next middle))

/-- The shape is as expected. -/
theorem expect {next : Unit → Read β} {bytes : Bytes} {value : β} (wireType : WireType)
    (reads : Reads (next ()) bytes value) :
    Reads (Read.expect wireType wireType >>= next) bytes value := by
  unfold Read.expect
  rw [if_pos rfl]
  exact (Reads.pure ()).bind reads

end Reads

/-! ### Numbers -/

theorem writeVarint_ne_nil (value : Nat) : writeVarint value ≠ [] := by
  unfold writeVarint writeVarintFrom
  split <;> exact List.cons_ne_nil _ _

theorem length_writeVarintFrom_le (count value : Nat) :
    (writeVarintFrom count value).length ≤ count := by
  induction count generalizing value with
  | zero => exact Nat.le_refl 0
  | succ count inductionHypothesis =>
    unfold writeVarintFrom
    split
    · exact Nat.succ_le_succ (Nat.zero_le count)
    · exact Nat.succ_le_succ (inductionHypothesis _)

theorem length_writeVarint_le (value : Nat) : (writeVarint value).length ≤ 10 :=
  length_writeVarintFrom_le 10 value

/-- Every byte carries seven bits of the number, but the last that may be written only one. -/
theorem reads_varintFrom (count shift known : Nat) {value : Nat}
    (bound : value < 2 ^ (7 * count + 1)) :
    Reads (Read.varintFrom (count + 1) shift known) (writeVarintFrom (count + 1) value)
      (known + value * 2 ^ shift) := by
  induction count generalizing shift known value with
  | zero =>
    intro rest
    have small : value % 256 = value := Nat.mod_eq_of_lt (by omega)
    have digit : value % 128 = value := Nat.mod_eq_of_lt (by omega)
    rw [writeVarintFrom, if_pos (by omega)]
    change (if 128 ≤ (UInt8.ofNat value).toNat then _ else _ : Read Nat) _ = _
    rw [UInt8.toNat_ofNat', small, digit, if_neg (by omega), if_neg (by omega)]
    rfl
  | succ count inductionHypothesis =>
    intro rest
    by_cases last : value < 128
    · have small : value % 256 = value := Nat.mod_eq_of_lt (by omega)
      have digit : value % 128 = value := Nat.mod_eq_of_lt last
      rw [writeVarintFrom, if_pos last]
      change (if 128 ≤ (UInt8.ofNat value).toNat then _ else _ : Read Nat) _ = _
      rw [UInt8.toNat_ofNat', small, digit, if_neg (by omega), if_neg (by omega)]
      rfl
    · have small : (value % 128 + 128) % 256 = value % 128 + 128 := Nat.mod_eq_of_lt (by omega)
      have digit : (value % 128 + 128) % 128 = value % 128 := by omega
      have higher : value / 128 < 2 ^ (7 * count + 1) := by
        apply Nat.div_lt_of_lt_mul
        rwa [← Nat.pow_add 2 7, show 7 + (7 * count + 1) = 7 * (count + 1) + 1 by omega]
      rw [writeVarintFrom, if_neg last]
      change (if 128 ≤ (UInt8.ofNat (value % 128 + 128)).toNat then _ else _ : Read Nat) _ = _
      rw [UInt8.toNat_ofNat', small, digit, if_pos (by omega)]
      refine (inductionHypothesis (shift + 7) _ higher rest).trans ?_
      have sum : known + value % 128 * 2 ^ shift + value / 128 * 2 ^ (shift + 7) =
          known + value * 2 ^ shift := by
        calc known + value % 128 * 2 ^ shift + value / 128 * 2 ^ (shift + 7)
            = known + (128 * (value / 128) + value % 128) * 2 ^ shift := by
              rw [Nat.pow_add]
              grind
          _ = known + value * 2 ^ shift := by rw [Nat.div_add_mod]
      rw [sum]

/-- A number of at most sixty-four bits is read back. -/
theorem reads_varint {value : Nat} (bound : value < 2 ^ 64) :
    Reads Read.varint (writeVarint value) value := by
  have reads := reads_varintFrom 9 0 0 bound
  rwa [Nat.zero_add, Nat.pow_zero, Nat.mul_one] at reads

/-- The key of a field is read back. -/
theorem reads_key {number : Nat} (some : 0 < number) (bound : number < 2 ^ 29)
    (wireType : WireType) :
    Reads Read.key (writeKey number wireType) (number, wireType) := by
  have small : wireType.toNat < 8 := by cases wireType <;> decide
  have shape : (number * 8 + wireType.toNat) % 8 = wireType.toNat := by omega
  have field : (number * 8 + wireType.toNat) / 8 = number := by omega
  have reads : Reads Read.varint (writeKey number wireType) (number * 8 + wireType.toNat) :=
    reads_varint (by omega)
  unfold Read.key
  rw [← List.append_nil (writeKey number wireType)]
  apply reads.bind
  rw [if_neg (by omega), shape, WireType.ofNat?_toNat, field]
  simp only [if_neg (Nat.ne_of_gt some)]
  exact Reads.pure _

/-! ### Byte strings -/

theorem reads_take (bytes : Bytes) : Reads (Read.take bytes.length) bytes bytes := by
  intro rest
  change (if (Cursor.start (bytes ++ rest)).remaining < bytes.length then _ else _ : Read Bytes) _ =
    _
  simp only [Cursor.start, List.length_append]
  rw [if_neg (by omega)]
  change Except.ok ((bytes ++ rest).take bytes.length,
    Cursor.mk ((bytes ++ rest).drop bytes.length) (bytes.length + rest.length - bytes.length)) = _
  rw [List.take_left, List.drop_left, Nat.add_sub_cancel_left]

theorem reads_lengthPrefixed {bytes : Bytes} (bound : bytes.length < 2 ^ 64) :
    Reads Read.lengthPrefixed (writeLengthPrefixed bytes) bytes :=
  (reads_varint bound).bind (reads_take bytes)

end RatchetMessaging.Wire
