import Mathlib.Algebra.Group.Nat.Defs
import RatchetMessaging.Ratchet.MessageCipher

/-!
Contract: a message and its bytes determine each other.

Owns:
- words and their four bytes, headers and their forty bytes, and framed messages, read back as
  they were written and written as they were read;
- the byte strings that are framed messages, and the refusal of every other one;
- the associated data of a message determines the caller's part and the header.

Does not own: encryption.
-/

namespace RatchetMessaging

/-! ### Words -/

/-- The number of four bytes, most significant first. -/
theorem toNat_wordOfBytes (first second third fourth : UInt8) :
    (wordOfBytes first second third fourth).toNat =
      first.toNat * 2 ^ 24 + second.toNat * 2 ^ 16 + third.toNat * 2 ^ 8 + fourth.toNat := by
  have boundFirst := first.toNat_lt
  have boundSecond := second.toNat_lt
  have boundThird := third.toNat_lt
  have boundFourth := fourth.toNat_lt
  have below (place value low : Nat) (small : low < 2 ^ place) :
      value * 2 ^ place ||| low = value * 2 ^ place + low := by
    rw [← Nat.shiftLeft_eq, ← Nat.shiftLeft_add_eq_or_of_lt small]
  unfold wordOfBytes
  simp only [UInt32.toNat_or, UInt32.toNat_shiftLeft, UInt8.toNat_toUInt32, UInt32.reduceToNat,
    Nat.reduceMod, Nat.shiftLeft_eq, Nat.or_assoc]
  rw [Nat.mod_eq_of_lt (by omega), Nat.mod_eq_of_lt (by omega), Nat.mod_eq_of_lt (by omega),
    below 8 _ _ (by omega), below 16 _ _ (by omega), below 24 _ _ (by omega)]
  omega

@[simp] theorem wordToBytes_wordOfBytes (first second third fourth : UInt8) :
    wordToBytes (wordOfBytes first second third fourth) = [first, second, third, fourth] := by
  have boundFirst := first.toNat_lt
  have boundSecond := second.toNat_lt
  have boundThird := third.toNat_lt
  have boundFourth := fourth.toNat_lt
  have value := toNat_wordOfBytes first second third fourth
  simp only [wordToBytes, List.cons.injEq, ← UInt8.toNat_inj, UInt32.toNat_toUInt8,
    UInt32.toNat_shiftRight, UInt32.reduceToNat, Nat.reduceMod, Nat.shiftRight_eq_div_pow, value,
    and_true]
  omega

theorem wordOfBytes_wordToBytes (word : UInt32) :
    wordOfBytes (word >>> 24).toUInt8 (word >>> 16).toUInt8 (word >>> 8).toUInt8 word.toUInt8 =
      word := by
  have bound := word.toNat_lt
  rw [← UInt32.toNat_inj, toNat_wordOfBytes]
  simp only [UInt32.toNat_toUInt8, UInt32.toNat_shiftRight, UInt32.reduceToNat, Nat.reduceMod,
    Nat.shiftRight_eq_div_pow]
  omega

/-- A word is written like the number that it is. -/
theorem wordToBytes_eq_ofNatBE (word : UInt32) : wordToBytes word = Bytes.ofNatBE 4 word.toNat := by
  simp only [wordToBytes, Bytes.ofNatBE, Bytes.ofNatLE, List.reverse_cons, List.reverse_nil,
    List.nil_append, List.cons_append, List.cons.injEq, ← UInt8.toNat_inj, UInt32.toNat_toUInt8,
    UInt32.toNat_shiftRight, UInt32.reduceToNat, Nat.reduceMod, Nat.shiftRight_eq_div_pow,
    UInt8.toNat_ofNat', and_true]
  omega

/-! ### Headers -/

namespace MessageHeader

theorem wordToBytes_wordAt {bytes : Bytes} {place : Nat} (fits : place + 4 ≤ bytes.length) :
    wordToBytes (wordAt bytes place) = (bytes.drop place).take 4 := by
  have first : place < bytes.length := by omega
  have second : place + 1 < bytes.length := by omega
  have third : place + 2 < bytes.length := by omega
  have fourth : place + 3 < bytes.length := by omega
  calc wordToBytes (wordAt bytes place)
      = [bytes[place], bytes[place + 1], bytes[place + 2], bytes[place + 3]] := by
        simp [wordAt, List.getD_eq_getElem?_getD, first, second, third, fourth]
    _ = (bytes.drop place).take 4 := by
        rw [List.drop_eq_getElem_cons first, List.drop_eq_getElem_cons second,
          List.drop_eq_getElem_cons third, List.drop_eq_getElem_cons fourth]
        rfl

/-- A word inside a byte string is found at its place. -/
theorem wordAt_append (front back : Bytes) (word : UInt32) :
    wordAt (front ++ wordToBytes word ++ back) front.length = word := by
  simp [wordAt, wordToBytes, List.getD_eq_getElem?_getD, wordOfBytes_wordToBytes]

/-- Forty bytes are the bytes of the header that they are read as. -/
@[simp] theorem toBytes_ofBytes (bytes : FixedBytes 40) : (ofBytes bytes).toBytes = bytes := by
  apply FixedBytes.ext
  have sized := bytes.length_eq
  have previous : wordToBytes (wordAt bytes.toBytes 32) = (bytes.toBytes.drop 32).take 4 :=
    wordToBytes_wordAt (by omega)
  have index : wordToBytes (wordAt bytes.toBytes 36) = (bytes.toBytes.drop 36).take 4 :=
    wordToBytes_wordAt (by omega)
  calc bytes.toBytes.take 32 ++ wordToBytes (wordAt bytes.toBytes 32) ++
        wordToBytes (wordAt bytes.toBytes 36)
      = bytes.toBytes.take 32 ++ (bytes.toBytes.drop 32).take 4 ++ bytes.toBytes.drop 36 := by
        rw [previous, index, List.take_of_length_le (l := bytes.toBytes.drop 36)
          (by rw [List.length_drop]; omega)]
    _ = bytes.toBytes.take (32 + 4) ++ bytes.toBytes.drop (32 + 4) := by rw [List.take_add]
    _ = bytes.toBytes := List.take_append_drop _ _

/-- A header is read back from its bytes. -/
@[simp] theorem ofBytes_toBytes (header : MessageHeader) : ofBytes header.toBytes = header := by
  have sized := header.ratchetKey.bytes.length_eq
  have key : @FixedBytes.left 32 8 header.toBytes = header.ratchetKey.bytes := by
    apply FixedBytes.ext
    simp only [FixedBytes.left, toBytes, X25519PublicKey.toBytes, List.append_assoc]
    rw [List.take_left' sized]
  have previous := wordAt_append header.ratchetKey.toBytes (wordToBytes header.chainIndex)
    header.previousChainLength
  have index := wordAt_append (header.ratchetKey.toBytes ++
    wordToBytes header.previousChainLength) [] header.chainIndex
  rw [List.append_nil] at index
  simp only [List.length_append, X25519PublicKey.toBytes, sized, wordToBytes_length]
    at previous index
  unfold ofBytes
  rw [key]
  simp only [toBytes, X25519PublicKey.toBytes]
  rw [previous, index]

theorem toBytes_injective : Function.Injective toBytes :=
  Function.LeftInverse.injective ofBytes_toBytes

end MessageHeader

/-! ### Framed messages -/

namespace RatchetMessage

/-- What is read as a message is the framing of that message. -/
theorem toBytes_of_ofBytes {bytes : Bytes} {message : RatchetMessage}
    (isMessage : ofBytes bytes = .ok message) : message.toBytes = bytes := by
  unfold ofBytes at isMessage
  split at isMessage
  · rename_i first second third fourth rest
    split at isMessage
    · rename_i sized
      have length : wordToBytes (UInt32.ofNat MessageHeader.size) =
          [first, second, third, fourth] := by
        rw [← wordToBytes_wordOfBytes, ← sized, UInt32.ofNat_toNat]
      split at isMessage
      · rename_i header isHeader
        cases isMessage
        simp [toBytes, length, FixedBytes.ofBytes?_eq_some_iff.1 isHeader]
      · cases isMessage
    · cases isMessage
  · cases isMessage

/-- A framed message is read back. -/
@[simp] theorem ofBytes_toBytes (message : RatchetMessage) :
    ofBytes message.toBytes = .ok message := by
  have sized := message.header.toBytes.length_eq
  have framed : message.toBytes = 0 :: 0 :: 0 :: 40 ::
      (message.header.toBytes.toBytes ++ message.ciphertext) := rfl
  rw [framed, ofBytes, if_pos (by rw [toNat_wordOfBytes]; rfl), MessageHeader.size,
    List.take_left' sized, List.drop_left' sized, FixedBytes.ofBytes?_toBytes]
  simp

theorem ofBytes_eq_ok_iff {bytes : Bytes} {message : RatchetMessage} :
    ofBytes bytes = .ok message ↔ message.toBytes = bytes := by
  constructor
  · exact toBytes_of_ofBytes
  · rintro rfl
    exact ofBytes_toBytes message

/-- The length of a header, the key, both numbers and the ciphertext, one after the other. -/
theorem toBytes_eq (message : RatchetMessage) :
    message.toBytes =
      Bytes.ofNatBE 4 40 ++ message.header.ratchetKey.toBytes ++
        Bytes.ofNatBE 4 message.header.previousChainLength.toNat ++
        Bytes.ofNatBE 4 message.header.chainIndex.toNat ++ message.ciphertext := by
  have length : wordToBytes (UInt32.ofNat MessageHeader.size) = Bytes.ofNatBE 4 40 :=
    wordToBytes_eq_ofNatBE 40
  simp only [toBytes, MessageHeader.toBytes, length, wordToBytes_eq_ofNatBE, List.append_assoc]

/-- The bytes start with the length of a header, and there are enough of them for one. -/
def IsFramed (bytes : Bytes) : Prop :=
  44 ≤ bytes.length ∧ [0, 0, 0, 0x28] <+: bytes

/-- What is said of bytes that are not framed. -/
def refusal (bytes : Bytes) : Error :=
  .decode (if bytes.length < 4 then "Invalid message format" else "Invalid message header")

theorem isFramed_toBytes (message : RatchetMessage) : IsFramed message.toBytes := by
  have framed : message.toBytes = [0, 0, 0, 0x28] ++
      (message.header.toBytes.toBytes ++ message.ciphertext) := rfl
  constructor
  · simp only [framed, List.length_append, message.header.toBytes.length_eq, List.length_cons,
      List.length_nil]
    omega
  · rw [framed]
    exact List.prefix_append _ _

theorem ofBytes_of_isFramed {bytes : Bytes} (framed : IsFramed bytes) :
    ∃ message, ofBytes bytes = .ok message := by
  obtain ⟨enough, rest, rfl⟩ := framed
  have sized : (rest.take MessageHeader.size).length = 40 := by
    simp only [List.length_append, List.length_cons, List.length_nil] at enough
    rw [List.length_take, MessageHeader.size]
    omega
  have isHeader : FixedBytes.ofBytes? 40 (rest.take MessageHeader.size) = some ⟨_, sized⟩ :=
    FixedBytes.ofBytes?_eq_some_iff.2 rfl
  refine ⟨⟨.ofBytes ⟨_, sized⟩, rest.drop MessageHeader.size⟩, ?_⟩
  change ofBytes (0 :: 0 :: 0 :: 0x28 :: rest) = _
  rw [ofBytes, if_pos (by rw [toNat_wordOfBytes]; rfl), isHeader]

/-- What is refused is refused in these words. -/
theorem ofBytes_eq_error {bytes : Bytes} {failure : Error}
    (refused : ofBytes bytes = .error failure) : failure = refusal bytes := by
  unfold ofBytes at refused
  unfold refusal
  split at refused
  · rw [if_neg (by simp only [List.length_cons]; omega)]
    split at refused
    · split at refused <;> cases refused
      rfl
    · cases refused
      rfl
  · rename_i tooShort
    cases refused
    rw [if_pos]
    match bytes with
    | [] | [_] | [_, _] | [_, _, _] => simp
    | first :: second :: third :: fourth :: rest => exact absurd rfl (tooShort _ _ _ _ _)

/-- Messages and framed byte strings correspond one to one: what is read is exactly what is framed,
each message is written in one way, whose header keeps the key and both numbers at their places, and
every other byte string is refused. -/
theorem framing_is_bijective :
    (∀ bytes, (∃ message, ofBytes bytes = .ok message) ↔
      44 ≤ bytes.length ∧ [0, 0, 0, 0x28] <+: bytes) ∧
    (∀ bytes message, ofBytes bytes = .ok message ↔ message.toBytes = bytes) ∧
    (∀ message : RatchetMessage, message.toBytes =
      Bytes.ofNatBE 4 40 ++ message.header.ratchetKey.toBytes ++
        Bytes.ofNatBE 4 message.header.previousChainLength.toNat ++
        Bytes.ofNatBE 4 message.header.chainIndex.toNat ++ message.ciphertext) ∧
    ∀ bytes, ofBytes bytes = .error (refusal bytes) ↔
      ¬ (44 ≤ bytes.length ∧ [0, 0, 0, 0x28] <+: bytes) := by
  have readable (bytes : Bytes) : (∃ message, ofBytes bytes = .ok message) ↔ IsFramed bytes := by
    constructor
    · rintro ⟨message, isMessage⟩
      rw [← toBytes_of_ofBytes isMessage]
      exact isFramed_toBytes message
    · exact ofBytes_of_isFramed
  refine ⟨readable, fun _ _ => ofBytes_eq_ok_iff, toBytes_eq, fun bytes => ?_⟩
  change _ ↔ ¬ IsFramed bytes
  rw [← readable]
  cases outcome : ofBytes bytes with
  | ok message => simp
  | error failure =>
    rw [ofBytes_eq_error outcome]
    simp

end RatchetMessage

/-! ### What is authenticated -/

/-- Within one session the associated data of a message determines the caller's part and the
header, whose size is fixed. -/
theorem MessageCipher.associatedData_inj {session caller otherCaller : Bytes}
    {header otherHeader : MessageHeader}
    (same : associatedData session caller header =
      associatedData session otherCaller otherHeader) :
    caller = otherCaller ∧ header = otherHeader := by
  unfold associatedData at same
  rw [List.append_assoc, List.append_assoc] at same
  obtain ⟨callers, headers⟩ := List.append_inj' (List.append_cancel_left same) (by simp)
  exact ⟨callers, MessageHeader.toBytes_injective (FixedBytes.ext headers)⟩

end RatchetMessaging
