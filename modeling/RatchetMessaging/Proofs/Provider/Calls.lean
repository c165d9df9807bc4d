import RatchetMessaging.Provider.Faulty
import RatchetMessaging.Proofs.Connection.Exchange
import RatchetMessaging.Proofs.Provider.Compositional

/-!
Contract: the calls of primitives that computations make.

Owns:
- `Call` and `Provider.recording`, which does what a provider does and lists every call, also one
  that fails, the oldest first;
- `Crypto.Records`, for computations that add calls of one kind only to the list;
- `OpensOnlySealed`, the lists in which nothing opens that was not sealed before;
- what an encryption seals, and what a decryption opens.

Does not own: who made the calls that are on the list already.
-/

namespace RatchetMessaging

variable {σ α β : Type}

/-! ### Recording -/

/-- A call of a primitive. Calls that seal or open tell what they were given, and what they gave
unless they failed. -/
inductive Call where
  | seal (key : FixedBytes 32) (nonce : FixedBytes 12) (plaintext associatedData : Bytes)
      (ciphertext : Option Bytes)
  | unseal (key : FixedBytes 32) (nonce : FixedBytes 12) (ciphertext associatedData : Bytes)
      (plaintext : Option Bytes)
  | other (primitive : Primitive)
deriving DecidableEq

/-- Whether a message was sealed. -/
def Call.sealsMessage : Call → Bool
  | .seal _ _ _ _ (some _) => true
  | _ => false

/-- The calls that seal nothing. -/
abbrev Call.Quiet (call : Call) : Prop := call.sealsMessage = false

/-- Make a call and list it. -/
def Crypto.recorded (entry : Option α → Call) (call : Crypto σ α) : Crypto (σ × List Call) α :=
  fun before =>
    match call before.1 with
    | .ok value after => .ok value (after, before.2 ++ [entry (some value)])
    | .error failure after => .error failure (after, before.2 ++ [entry none])

/-- The provider that lists its calls. -/
def Provider.recording (provider : Provider σ) : Provider (σ × List Call) where
  randomBytes size := .recorded (fun _ => .other .random) (provider.randomBytes size)
  x25519Public secret := .recorded (fun _ => .other .x25519Public) (provider.x25519Public secret)
  x25519Shared secret peer :=
    .recorded (fun _ => .other .x25519Shared) (provider.x25519Shared secret peer)
  ed25519KeyPair seed := .recorded (fun _ => .other .ed25519KeyPair) (provider.ed25519KeyPair seed)
  ed25519Sign keyPair message :=
    .recorded (fun _ => .other .ed25519Sign) (provider.ed25519Sign keyPair message)
  ed25519Verify key message signature :=
    .recorded (fun _ => .other .ed25519Verify) (provider.ed25519Verify key message signature)
  hkdf salt material info size :=
    .recorded (fun _ => .other .hkdf) (provider.hkdf salt material info size)
  hmac key message := .recorded (fun _ => .other .hmac) (provider.hmac key message)
  aeadEncrypt key nonce plaintext associatedData :=
    .recorded (.seal key nonce plaintext associatedData)
      (provider.aeadEncrypt key nonce plaintext associatedData)
  aeadDecrypt key nonce ciphertext associatedData :=
    .recorded (.unseal key nonce ciphertext associatedData)
      (provider.aeadDecrypt key nonce ciphertext associatedData)

/-- A call that opens a ciphertext gives what was sealed to it before, under the same key, nonce
and associated data. -/
def Call.Honest (earlier : List Call) : Call → Prop
  | .unseal key nonce ciphertext associatedData (some plaintext) =>
    .seal key nonce plaintext associatedData (some ciphertext) ∈ earlier
  | _ => True

instance (earlier : List Call) : (call : Call) → Decidable (call.Honest earlier)
  | .unseal _ _ _ _ (some _) => inferInstanceAs (Decidable (_ ∈ _))
  | .unseal _ _ _ _ none => .isTrue trivial
  | .seal _ _ _ _ _ => .isTrue trivial
  | .other _ => .isTrue trivial

/-- Nothing opens that was not sealed before. -/
def OpensOnlySealed (calls : List Call) : Prop :=
  ∀ position : Fin calls.length, calls[position].Honest (calls.take position)

instance (calls : List Call) : Decidable (OpensOnlySealed calls) :=
  inferInstanceAs (Decidable (∀ _ : Fin calls.length, _))

theorem OpensOnlySealed.last {earlier : List Call} {call : Call}
    (authentic : OpensOnlySealed (earlier ++ [call])) : call.Honest earlier := by
  have honest := authentic ⟨earlier.length, by simp⟩
  simpa using honest

namespace Crypto

/-! ### The calls of a computation -/

variable {kind : Call → Prop} {before : σ × List Call}

/-- The list after a computation, which may fail. -/
def callsAfter (computation : Crypto (σ × List Call) α) (before : σ × List Call) : List Call :=
  match computation before with
  | .ok _ after => after.2
  | .error _ after => after.2

theorem callsAfter_of_ok {computation : Crypto (σ × List Call) α} {value : α}
    {after : σ × List Call} (result : computation before = .ok value after) :
    callsAfter computation before = after.2 := by
  rw [callsAfter, result]

theorem callsAfter_of_error {computation : Crypto (σ × List Call) α} {failure : Error}
    {after : σ × List Call} (result : computation before = .error failure after) :
    callsAfter computation before = after.2 := by
  rw [callsAfter, result]

/-- The computation adds calls of one kind only, whether it fails or not. -/
def Records (kind : Call → Prop) (computation : Crypto (σ × List Call) α) : Prop :=
  ∀ before, ∃ made, callsAfter computation before = before.2 ++ made ∧ ∀ call ∈ made, kind call

theorem Records.of_ok {computation : Crypto (σ × List Call) α} {value : α} {after : σ × List Call}
    (records : Records kind computation) (result : computation before = .ok value after) :
    ∃ made, after.2 = before.2 ++ made ∧ ∀ call ∈ made, kind call :=
  callsAfter_of_ok result ▸ records before

theorem records_ofState {computation : Crypto (σ × List Call) α}
    (unchanged : ∀ before, callsAfter computation before = before.2) :
    Records kind computation :=
  fun before => ⟨[], by rw [unchanged, List.append_nil], by simp⟩

theorem Records.bind {first : Crypto (σ × List Call) α} {next : α → Crypto (σ × List Call) β}
    (firstRecords : Records kind first) (nextRecords : ∀ middle, Records kind (next middle)) :
    Records kind (first >>= next) := by
  intro before
  obtain ⟨made, isMade, ofKind⟩ := firstRecords before
  cases result : first before with
  | ok middle between =>
    obtain ⟨more, isMore, moreOfKind⟩ := nextRecords middle between
    rw [callsAfter_of_ok result] at isMade
    refine ⟨made ++ more, ?_, ?_⟩
    · rw [callsAfter, bind_of_ok result, ← callsAfter, isMore, isMade, List.append_assoc]
    · exact List.forall_mem_append.2 ⟨ofKind, moreOfKind⟩
  | error failure between =>
    rw [callsAfter_of_error result] at isMade
    exact ⟨made, by rw [callsAfter_of_error (bind_of_error result next), isMade], ofKind⟩

theorem records_compositional (kind : Call → Prop) :
    Compositional (σ := σ × List Call) (fun _ => Records kind) where
  returns _ := records_ofState fun _ => rfl
  fails _ := records_ofState fun _ => rfl
  bind := Records.bind

/-- What follows may end the computation without a call. -/
theorem callsAfter_bind_pure (first : Crypto (σ × List Call) α) (value : α → β) :
    callsAfter (first >>= fun middle => pure (value middle)) before = callsAfter first before := by
  cases result : first before with
  | ok middle between =>
    rw [callsAfter, bind_of_ok result, callsAfter_of_ok result]
    rfl
  | error failure between =>
    rw [callsAfter_of_error (bind_of_error result _), callsAfter_of_error result]

theorem calls_of_recorded {entry : Option α → Call} {call : Crypto σ α} {value : α}
    {after : σ × List Call} (result : recorded entry call before = .ok value after) :
    after.2 = before.2 ++ [entry (some value)] := by
  unfold recorded at result
  split at result <;> cases result
  rfl

/-- A recorded call is listed with its result, or as one that failed. -/
theorem callsAfter_recorded (entry : Option α → Call) (call : Crypto σ α)
    (before : σ × List Call) :
    (∃ value after, recorded entry call before = .ok value after ∧
        callsAfter (recorded entry call) before = before.2 ++ [entry (some value)]) ∨
      callsAfter (recorded entry call) before = before.2 ++ [entry none] := by
  cases result : call before.1 with
  | ok value after =>
    have listed : recorded entry call before =
        .ok value (after, before.2 ++ [entry (some value)]) := by rw [recorded, result]
    exact .inl ⟨value, _, listed, callsAfter_of_ok listed⟩
  | error failure after => exact .inr (by simp only [callsAfter, recorded, result])

theorem records_recorded {entry : Option α → Call} (ofKind : ∀ outcome, kind (entry outcome))
    (call : Crypto σ α) : Records kind (recorded entry call) := by
  intro before
  rcases callsAfter_recorded entry call before with ⟨_, _, _, isAfter⟩ | isAfter
  · exact ⟨_, isAfter, by simpa using ofKind _⟩
  · exact ⟨_, isAfter, by simpa using ofKind _⟩

/-- A call of another kind is on the list already, or it is made by what follows. -/
theorem mem_callsAfter_bind {first : Crypto (σ × List Call) α}
    {next : α → Crypto (σ × List Call) β} {call : Call} (firstRecords : Records kind first)
    (notOfKind : ¬kind call) (member : call ∈ callsAfter (first >>= next) before) :
    call ∈ before.2 ∨ ∃ middle between, first before = .ok middle between ∧
      call ∈ callsAfter (next middle) between ∧ (call ∈ between.2 → call ∈ before.2) := by
  obtain ⟨made, isMade, ofKind⟩ := firstRecords before
  have isOld (old : call ∈ before.2 ++ made) : call ∈ before.2 :=
    (List.mem_append.1 old).resolve_right fun new => notOfKind (ofKind _ new)
  cases result : first before with
  | ok middle between =>
    rw [callsAfter_of_ok result] at isMade
    rw [callsAfter, bind_of_ok result] at member
    exact .inr ⟨middle, between, rfl, member, fun old => isOld (isMade ▸ old)⟩
  | error failure between =>
    rw [callsAfter_of_error result] at isMade
    rw [callsAfter_of_error (bind_of_error result next), isMade] at member
    exact .inl (isOld member)

end Crypto

namespace Provider

variable {kind : Call → Prop}

theorem recording_derives (others : ∀ primitive, kind (.other primitive))
    (provider : Provider σ) : provider.recording.Derives (fun _ => Crypto.Records kind) where
  compositional := Crypto.records_compositional kind
  agrees _ _ := Crypto.records_recorded (fun _ => others _) _
  derives _ _ _ _ := Crypto.records_recorded (fun _ => others _) _
  macs _ _ := Crypto.records_recorded (fun _ => others _) _

theorem recording_draws (others : ∀ primitive, kind (.other primitive))
    (provider : Provider σ) : provider.recording.Draws (fun _ => Crypto.Records kind) where
  draws _ := Crypto.records_recorded (fun _ => others _) _
  publishes _ := Crypto.records_recorded (fun _ => others _) _

variable (provider : Provider σ)

theorem quiet_derives : provider.recording.Derives (fun _ => Crypto.Records Call.Quiet) :=
  recording_derives (fun _ => rfl) provider

theorem quiet_draws : provider.recording.Draws (fun _ => Crypto.Records Call.Quiet) :=
  recording_draws (fun _ => rfl) provider

theorem quiet_opens (key : FixedBytes 32) (nonce : FixedBytes 12)
    (ciphertext associatedData : Bytes) :
    Crypto.Records Call.Quiet
      (provider.recording.aeadDecrypt key nonce ciphertext associatedData) :=
  Crypto.records_recorded
    (fun outcome => (rfl : (Call.unseal key nonce ciphertext associatedData outcome).Quiet)) _

end Provider

/-! ### What messages seal and open -/

section Messages

variable {provider : Provider σ} {before after : σ × List Call} {call : Call}
  {plaintext associatedData : Bytes}

/-- A call of a cipher seals what it was given, if it succeeds. -/
theorem MessageCipher.mem_callsAfter_encrypt {messageKey : FixedBytes 32}
    (seals : call.sealsMessage = true)
    (member : call ∈ Crypto.callsAfter
      (encrypt provider.recording messageKey plaintext associatedData) before) :
    call ∈ before.2 ∨ ∃ key nonce ciphertext after,
      encrypt provider.recording messageKey plaintext associatedData before =
        .ok ciphertext after ∧
      call = .seal key nonce plaintext associatedData (some ciphertext) := by
  have met := provider.quiet_derives
  obtain old | ⟨⟨key, nonce⟩, expanded, expands, member, isOld⟩ :=
    Crypto.mem_callsAfter_bind (met.material messageKey) (by simp [seals]) member
  · exact .inl old
  rcases Crypto.callsAfter_recorded (.seal key nonce plaintext associatedData)
    (provider.aeadEncrypt key nonce plaintext associatedData) expanded with
    ⟨ciphertext, after, succeeds, isAfter⟩ | isAfter
  · rcases List.mem_append.1 (isAfter ▸ member) with old | new
    · exact .inl (isOld old)
    · exact .inr ⟨key, nonce, ciphertext, after,
        Crypto.bind_eq_ok.2 ⟨(key, nonce), expanded, expands, succeeds⟩, List.mem_singleton.1 new⟩
  · rcases List.mem_append.1 (isAfter ▸ member) with old | new
    · exact .inl (isOld old)
    · rw [List.mem_singleton.1 new] at seals
      cases seals

/-- An encryption seals its message, if it succeeds, and nothing else. -/
theorem Connection.mem_callsAfter_stageEncrypt {connection : Connection}
    (seals : call.sealsMessage = true)
    (member : call ∈ Crypto.callsAfter
      (connection.stageEncrypt provider.recording plaintext associatedData) before) :
    call ∈ before.2 ∨ ∃ state message staged after key nonce,
      connection.phase = .established state ∧
      connection.stageEncrypt provider.recording plaintext associatedData before =
        .ok (message, staged) after ∧
      call = .seal key nonce plaintext
        (MessageCipher.associatedData state.associatedData associatedData message.header)
        (some message.ciphertext) := by
  have met := provider.quiet_derives
  obtain old | ⟨state, _, found, member, isOld⟩ :=
    Crypto.mem_callsAfter_bind (met.compositional.ofExcept _) (by simp [seals]) member
  · exact .inl old
  obtain old | ⟨⟨messageKey, header, change⟩, between, chosen, member, isOldChosen⟩ :=
    Crypto.mem_callsAfter_bind (met.nextSendingKey provider.quiet_draws state) (by simp [seals])
      member
  · exact .inl (isOld old)
  simp only [Crypto.callsAfter_bind_pure] at member
  obtain old | ⟨key, nonce, ciphertext, after, encrypts, isCall⟩ :=
    MessageCipher.mem_callsAfter_encrypt seals member
  · exact .inl (isOld (isOldChosen old))
  · refine .inr ⟨state, ⟨header, ciphertext⟩, ⟨change, none⟩, after, key, nonce,
      (Connection.ofExcept_state_eq_ok.1 found).1, ?_, isCall⟩
    exact Crypto.bind_eq_ok.2 ⟨_, _, found, Crypto.bind_eq_ok.2 ⟨_, _, chosen,
      Crypto.bind_eq_ok.2 ⟨_, _, encrypts, rfl⟩⟩⟩

/-- A decryption that succeeds ends by opening the message, with what its session, the caller and
its header authenticate. It seals nothing before. -/
theorem Connection.calls_of_stageDecrypt {connection : Connection} {message : RatchetMessage}
    {staged : Staged}
    (decrypted : connection.stageDecrypt provider.recording message associatedData before =
      .ok (plaintext, staged) after) :
    ∃ state made key nonce, connection.phase = .established state ∧
      (∀ call ∈ made, call.Quiet) ∧
      after.2 = before.2 ++ made ++
        [.unseal key nonce message.ciphertext
          (MessageCipher.associatedData state.associatedData associatedData message.header)
          (some plaintext)] := by
  have met := provider.quiet_derives
  simp only [stageDecrypt, Crypto.bind_eq_ok, ofExcept_state_eq_ok] at decrypted
  obtain ⟨state, _, ⟨isState, rfl⟩, decrypted⟩ := decrypted
  cases replayed : isReplayed state message.header with
  | true => simp [replayed, Crypto.bind_eq_ok] at decrypted
  | false =>
    simp only [replayed, Bool.false_eq_true, if_false, Crypto.bind_eq_ok, Crypto.pure_eq_ok]
      at decrypted
    obtain ⟨⟨messageKey, generation, change⟩, between, found, opened, _, decrypts, same, rfl⟩ :=
      decrypted
    cases same
    obtain ⟨⟨key, nonce⟩, expanded, expands, opens⟩ := Crypto.bind_eq_ok.1 decrypts
    obtain ⟨made, isMade, quiet⟩ := (met.receivingKey state message.header).of_ok found
    obtain ⟨more, isMore, moreQuiet⟩ := (met.material messageKey).of_ok expands
    refine ⟨state, made ++ more, key, nonce, isState,
      List.forall_mem_append.2 ⟨quiet, moreQuiet⟩, ?_⟩
    rw [← List.append_assoc, ← isMade, ← isMore]
    exact Crypto.calls_of_recorded opens

end Messages

end RatchetMessaging
