import Mathlib.Control.Monad.Basic
import RatchetMessaging.Messenger.Exchange
import RatchetMessaging.Proofs.Messenger.Saving
import RatchetMessaging.Proofs.Provider.Steady

/-!
Contract: what encryption and decryption on a live connection leave behind.

Owns:
- `Unchanged`, what an operation that fails has not touched: the party with its table of
  connections and its identity, the stored identity, and the stored connection;
- `exchange`, the staging and settling that encryption and decryption share, its failures and its
  successes;
- encryption and decryption that fail, for whatever reason, change nothing;
- a decryption that failed through a fault gives, once the fault has cleared, what it would have
  given without it.

Does not own: what a message decrypts to.
-/

namespace RatchetMessaging.Node

variable {σ α : Type} {provider : Provider σ} {healthy : σ → Prop} {connectionId : UInt32}
  {live : LiveConnection} {staged : Staged} {signal : CancelSignal σ}
  {stage : Connection → Crypto σ (α × Staged)} {before after : Node σ} {result : α}
  {failure : Error}

/-- An operation on a session has changed neither the party nor what is stored of the identity and
of the session. A record that another process was about to write may be written meanwhile. -/
structure Unchanged (connectionId : UInt32) (before after : Node σ) : Prop where
  messenger : after.own.messenger = before.own.messenger
  identityRecord : after.volume.find? .identity = before.volume.find? .identity
  connectionRecord : (∀ process ∈ before.others, ¬ process.Saving (.connection connectionId)) →
    after.volume.find? (.connection connectionId) = before.volume.find? (.connection connectionId)

theorem Unchanged.of_same_site (same : after.toSite = before.toSite) :
    Unchanged connectionId before after := by
  have volumes := congrArg Site.volume same
  exact ⟨congrArg (Process.messenger ∘ Site.own) same, congrArg _ volumes,
    fun _ => congrArg _ volumes⟩

/-- Once the process at work has dropped its own save of the session, nothing that happens while
it waits is about the session. -/
theorem Unchanged.of_passes
    (passes : Site.Passes
      { before.toSite with own := before.own.dropping (.connection connectionId) }
      after.toSite) :
    Unchanged connectionId before after where
  messenger := by
    rw [(List.cons.inj passes.messengers).1, Process.messenger_dropping]
  identityRecord := passes.record .identity (fun process _ => process.not_saving_identity)
  connectionRecord unsaved := by
    apply passes.record
    intro process member
    rcases List.mem_cons.1 member with rfl | isOther
    · exact Process.not_saving_dropping _ _
    · exact unsaved process isOther

/-! ### Settling a change -/

theorem settle_eq_error
    (failed : settle connectionId live staged signal before = .error failure after) :
    Unchanged connectionId before after := by
  unfold settle at failed
  cases turned : staged.turnRecord connectionId with
  | none =>
    rw [turned] at failed
    cases failed
  | some record =>
    simp only [turned] at failed
    rcases Crypto.bind_eq_error.1 failed with withdrawn | ⟨_, ready, checked, failed⟩
    · obtain rfl := CancelSignal.check_eq_error withdrawn
      exact .of_same_site rfl
    · obtain rfl := CancelSignal.check_eq_ok checked
      rcases Crypto.bind_eq_error.1 failed with unsaved | ⟨_, _, _, committed⟩
      · exact .of_passes (saveCritical_eq_error unsaved).passes
      · cases committed

theorem settle_eq_ok (settled : settle connectionId live staged signal before = .ok () after) :
    after.own.messenger = before.own.messenger.update connectionId
      { live with connection := live.connection.commit staged } := by
  unfold settle at settled
  cases turned : staged.turnRecord connectionId with
  | none =>
    rw [turned] at settled
    cases settled
    rfl
  | some record =>
    simp only [turned, Crypto.bind_eq_ok] at settled
    obtain ⟨_, _, checked, _, stored, saved, committed⟩ := settled
    obtain rfl := CancelSignal.check_eq_ok checked
    obtain ⟨ready, lapses, _, rfl⟩ := saveCritical_eq_ok saved
    cases committed
    have party := lapses.messenger.trans (Process.messenger_dropping _ _)
    exact congrArg (fun messenger => messenger.update connectionId
      { live with connection := live.connection.commit staged }) party

/-- On a volume that accepts its writes a change can be settled. -/
theorem settle_succeeds (before : Node σ)
    (accepts : ∀ writes, before.volume.writeFault writes (.connection connectionId) = none)
    (live : LiveConnection) (staged : Staged) :
    ∃ after, settle connectionId live staged .never before = .ok () after := by
  unfold settle
  cases staged.turnRecord connectionId with
  | none => exact ⟨_, rfl⟩
  | some record =>
    obtain ⟨stored, saved⟩ := saveCritical_succeeds accepts (.ofConnection record)
    simp only
    rw [Crypto.bind_of_ok (CancelSignal.check_never before), Crypto.bind_of_ok saved]
    exact ⟨_, rfl⟩

/-! ### Staging and settling -/

/-- What encryption and decryption have in common: a result and a change are staged, and the change
is settled. -/
def exchange (connectionId : UInt32) (stage : Connection → Crypto σ (α × Staged))
    (signal : CancelSignal σ) : Operation σ α := do
  let live ← checking ((← messenger).session connectionId)
  let (result, staged) ← calling (stage live.connection)
  settle connectionId live staged signal
  return result

theorem encrypt_eq_exchange (plaintext associatedData : Bytes) :
    encrypt provider connectionId plaintext associatedData signal =
      exchange connectionId
        (fun connection => connection.stageEncrypt provider plaintext associatedData) signal :=
  rfl

theorem decrypt_eq_exchange (message : RatchetMessage) (associatedData : Bytes) :
    decrypt provider connectionId message associatedData signal =
      exchange connectionId
        (fun connection => connection.stageDecrypt provider message associatedData) signal :=
  rfl

theorem messenger_eq (node : Node σ) : messenger node = .ok node.own.messenger node := rfl

theorem exchange_of_missing (missing : before.own.messenger.session connectionId = .error failure) :
    exchange connectionId stage signal before = .error failure before := by
  unfold exchange
  rw [Crypto.bind_of_ok (messenger_eq before), missing]
  exact Crypto.bind_of_error rfl _

theorem exchange_of_unstaged {crypto : σ}
    (found : before.own.messenger.session connectionId = .ok live)
    (unstaged : stage live.connection before.crypto = .error failure crypto) :
    exchange connectionId stage signal before =
      .error failure { before with crypto := crypto } := by
  unfold exchange
  rw [Crypto.bind_of_ok (messenger_eq before), found]
  refine (Crypto.bind_of_ok rfl _).trans (Crypto.bind_of_error ?_ _)
  simp only [calling, unstaged]

theorem exchange_of_staged {crypto : σ}
    (found : before.own.messenger.session connectionId = .ok live)
    (isStaged : stage live.connection before.crypto = .ok (result, staged) crypto) :
    exchange connectionId stage signal before =
      (do
        settle connectionId live staged signal
        return result) { before with crypto := crypto } := by
  unfold exchange
  rw [Crypto.bind_of_ok (messenger_eq before), found]
  have called : calling (stage live.connection) before =
      .ok (result, staged) { before with crypto := crypto } := by
    simp only [calling, isStaged]
  exact (Crypto.bind_of_ok rfl _).trans (Crypto.bind_of_ok called _)

/-- An operation that succeeds has found the session, staged its result, and settled the
change. -/
theorem exchange_settles
    (succeeded : exchange connectionId stage signal before = .ok result after) :
    ∃ live staged crypto, before.own.messenger.session connectionId = .ok live ∧
      stage live.connection before.crypto = .ok (result, staged) crypto ∧
      settle connectionId live staged signal { before with crypto := crypto } = .ok () after := by
  cases found : before.own.messenger.session connectionId with
  | error missing =>
    rw [exchange_of_missing found] at succeeded
    cases succeeded
  | ok live =>
    cases outcome : stage live.connection before.crypto with
    | error reason crypto =>
      rw [exchange_of_unstaged found outcome] at succeeded
      cases succeeded
    | ok resultAndStaged crypto =>
      obtain ⟨staging, staged⟩ := resultAndStaged
      rw [exchange_of_staged found outcome] at succeeded
      obtain ⟨_, _, settled, returned⟩ := Crypto.bind_eq_ok.1 succeeded
      obtain ⟨rfl, rfl⟩ := Crypto.pure_eq_ok.1 returned
      exact ⟨live, staged, crypto, rfl, outcome, settled⟩

/-- An operation that fails has not come to settle a change, or has failed at that. -/
theorem exchange_fails
    (failed : exchange connectionId stage signal before = .error failure after) :
    after.toSite = before.toSite ∨
      ∃ live staged crypto,
        settle connectionId live staged signal { before with crypto := crypto } =
          .error failure after := by
  cases found : before.own.messenger.session connectionId with
  | error missing =>
    rw [exchange_of_missing found] at failed
    cases failed
    exact .inl rfl
  | ok live =>
    cases outcome : stage live.connection before.crypto with
    | error reason crypto =>
      rw [exchange_of_unstaged found outcome] at failed
      cases failed
      exact .inl rfl
    | ok resultAndStaged crypto =>
      obtain ⟨result, staged⟩ := resultAndStaged
      rw [exchange_of_staged found outcome] at failed
      rcases Crypto.bind_eq_error.1 failed with unsettled | ⟨_, _, _, returned⟩
      · exact .inr ⟨live, staged, crypto, unsettled⟩
      · cases returned

/-- Whatever makes the operation fail, it changes nothing. -/
theorem exchange_eq_error
    (failed : exchange connectionId stage signal before = .error failure after) :
    Unchanged connectionId before after := by
  rcases exchange_fails failed with same | ⟨_, _, _, unsettled⟩
  · exact .of_same_site same
  · have unchanged := settle_eq_error unsettled
    exact ⟨unchanged.messenger, unchanged.identityRecord, unchanged.connectionRecord⟩

/-- An operation that succeeds has committed the change. -/
theorem exchange_eq_ok (succeeded : exchange connectionId stage signal before = .ok result after) :
    ∃ live staged crypto, before.own.messenger.session connectionId = .ok live ∧
      stage live.connection before.crypto = .ok (result, staged) crypto ∧
      after.own.messenger = before.own.messenger.update connectionId
        { live with connection := live.connection.commit staged } := by
  obtain ⟨live, staged, crypto, found, isStaged, settled⟩ := exchange_settles succeeded
  have committed := settle_eq_ok settled
  exact ⟨live, staged, crypto, found, isStaged, committed⟩

/-- What a steady computation stages once is staged, and settled, again. -/
theorem exchange_again (steady : ∀ connection, Crypto.Steady healthy (stage connection))
    {clean retry reached : Node σ} (cleanHealthy : healthy clean.crypto)
    (succeeded : exchange connectionId stage signal clean = .ok result reached)
    (sameParty : retry.own.messenger = clean.own.messenger) (retryHealthy : healthy retry.crypto)
    (accepts : ∀ writes, retry.volume.writeFault writes (.connection connectionId) = none) :
    ∃ done, exchange connectionId stage .never retry = .ok result done ∧
      done.own.messenger = reached.own.messenger := by
  obtain ⟨live, staged, crypto, found, isStaged, committed⟩ := exchange_eq_ok succeeded
  obtain ⟨crypto, stagedAgain⟩ :=
    (steady live.connection _ _ _ cleanHealthy isStaged).2 retry.crypto retryHealthy
  obtain ⟨done, settled⟩ := settle_succeeds { retry with crypto := crypto } accepts live staged
  refine ⟨done, ?_, ?_⟩
  · rw [exchange_of_staged (sameParty ▸ found) stagedAgain, Crypto.bind_of_ok settled]
    rfl
  · rw [settle_eq_ok settled, committed, sameParty]

/-! ### Messages -/

/-- Encryption and decryption that fail, for whatever reason, change nothing. A decryption that
would have succeeded but for a fault succeeds once the fault has cleared, with the plaintext and
the connections that it would have come to at first. -/
theorem message_fails_without_effect (provider : Provider σ) (connectionId : UInt32)
    (associatedData : Bytes) (signal : CancelSignal σ) (before : Node σ) :
    (∀ plaintext failure after,
      encrypt provider connectionId plaintext associatedData signal before =
        .error failure after → Unchanged connectionId before after) ∧
    ∀ message failure after,
      decrypt provider connectionId message associatedData signal before =
        .error failure after →
      Unchanged connectionId before after ∧
        ∀ healthy, provider.Steady healthy → ∀ clean cleanSignal plaintext reached,
          clean.own.messenger = before.own.messenger → healthy clean.crypto →
          decrypt provider connectionId message associatedData cleanSignal clean =
            .ok plaintext reached →
          ∀ retry, retry.own.messenger = after.own.messenger → healthy retry.crypto →
            (∀ writes, retry.volume.writeFault writes (.connection connectionId) = none) →
            ∃ done,
              decrypt provider connectionId message associatedData .never retry =
                .ok plaintext done ∧
              done.own.messenger = reached.own.messenger := by
  constructor
  · intro plaintext failure after failed
    rw [encrypt_eq_exchange] at failed
    exact exchange_eq_error failed
  · intro message failure after failed
    rw [decrypt_eq_exchange] at failed
    have unchanged := exchange_eq_error failed
    refine ⟨unchanged, ?_⟩
    intro healthy steady clean cleanSignal plaintext reached cleanParty cleanHealthy succeeded
      retry retryParty retryHealthy accepts
    rw [decrypt_eq_exchange] at succeeded ⊢
    have sameParty : retry.own.messenger = clean.own.messenger := by
      rw [retryParty, unchanged.messenger, cleanParty]
    exact exchange_again (fun connection => steady.stageDecrypt connection message associatedData)
      cleanHealthy succeeded sameParty retryHealthy accepts

/-- What an operation comes to. -/
def outcome (operation : Operation σ α) (node : Node σ) : Except Error α :=
  match operation node with
  | .ok value _ => .ok value
  | .error failure _ => .error failure

theorem outcome_eq_ok {operation : Operation σ α}
    (succeeds : outcome operation before = .ok result) :
    ∃ after, operation before = .ok result after := by
  unfold outcome at succeeds
  split at succeeds
  · cases succeeds
    exact ⟨_, by assumption⟩
  · cases succeeds

theorem outcome_eq_error {operation : Operation σ α}
    (fails : outcome operation before = .error failure) :
    ∃ after, operation before = .error failure after := by
  unfold outcome at fails
  split at fails
  · cases fails
  · cases fails
    exact ⟨_, by assumption⟩

/-- A party with one live connection. -/
def sample (connection : Connection) (volume : Volume) (faults : List Fault) :
    Node (Faulty Nat) where
  volume := volume
  own.messenger.config := {}
  own.messenger.identity := {
    signing := ⟨⟨.replicate 32 1⟩, .replicate 64 1⟩
    agreement := .sample
    signedPreKey := ⟨1, .sample, ⟨.replicate 64 2⟩⟩
    oneTimePreKeys := .empty }
  own.messenger.connections := OrderedMap.empty.insert 1 ⟨0, connection⟩
  own.timer := .thirtyYears
  crypto := ⟨0, faults, 0⟩
  clock := 0

/-- The first turn of the responder reaches an initiator whose volume is read-only, and whose
provider will not encrypt. With a provider and a volume that work, the message is read after all. -/
theorem message_fails_without_effect_sample :
    ∃ connection message sent received reached done,
      encrypt (Faulty.wrap .transparent) 1 [8] [] .never
        (sample connection .readOnly [⟨.aeadEncrypt, .error, 0⟩]) =
          .error (.provider Faulty.injected) sent ∧
      Unchanged 1 (sample connection .readOnly [⟨.aeadEncrypt, .error, 0⟩]) sent ∧
      decrypt (Faulty.wrap .transparent) 1 message [] .never
        (sample connection .readOnly [⟨.aeadEncrypt, .error, 0⟩]) =
          .error (gaveUp (.connection 1) 5 "Storage failure: volume is read-only") received ∧
      Unchanged 1 (sample connection .readOnly [⟨.aeadEncrypt, .error, 0⟩]) received ∧
      decrypt (Faulty.wrap .transparent) 1 message [] .never (sample connection {} []) =
        .ok [7] reached ∧
      decrypt (Faulty.wrap .transparent) 1 message [] .never
        { received with volume := {}, crypto := ⟨0, [], 0⟩ } = .ok [7] done ∧
      done.own.messenger = reached.own.messenger := by
  obtain ⟨connection, _, _, _, _, message, _, _, _, _, _, _, encryptFails, decryptFails,
      succeeds⟩ :
      ∃ connection drawn key responder answered message staged after,
        (Connection.new 1 (.sample 100)).establish .transparent .sample 0 =
          .ok connection drawn ∧
        connection.localRatchetKey = .ok key ∧
        (Connection.new 2 (.sample 100)).establish .transparent
          { SessionSeed.samplePeer with remoteRatchetKey := some key } 1 =
            .ok responder answered ∧
        responder.stageEncrypt .transparent [7] [] 1 = .ok (message, staged) after ∧
        outcome (encrypt (Faulty.wrap .transparent) 1 [8] [] .never)
          (sample connection .readOnly [⟨.aeadEncrypt, .error, 0⟩]) =
            .error (.provider Faulty.injected) ∧
        outcome (decrypt (Faulty.wrap .transparent) 1 message [] .never)
          (sample connection .readOnly [⟨.aeadEncrypt, .error, 0⟩]) =
            .error (gaveUp (.connection 1) 5 "Storage failure: volume is read-only") ∧
        outcome (decrypt (Faulty.wrap .transparent) 1 message [] .never)
          (sample connection {} []) = .ok [7] :=
    ⟨_, _, _, _, _, _, _, _, rfl, rfl, rfl, rfl, by decide +kernel, by decide +kernel,
      by decide +kernel⟩
  obtain ⟨sent, encryptFailed⟩ := outcome_eq_error encryptFails
  obtain ⟨received, decryptFailed⟩ := outcome_eq_error decryptFails
  obtain ⟨reached, succeeded⟩ := outcome_eq_ok succeeds
  have effect := message_fails_without_effect (Faulty.wrap .transparent) 1 [] .never
    (sample connection .readOnly [⟨.aeadEncrypt, .error, 0⟩])
  obtain ⟨unchanged, again⟩ := effect.2 message _ received decryptFailed
  obtain ⟨done, decrypted, same⟩ := again _ (Faulty.wrap_steady Provider.transparent_steady)
    (sample connection {} []) .never [7] reached rfl ⟨rfl, trivial⟩ succeeded
    { received with volume := {}, crypto := ⟨0, [], 0⟩ } rfl ⟨rfl, trivial⟩ (fun _ => rfl)
  exact ⟨connection, message, sent, received, reached, done, encryptFailed,
    effect.1 _ _ sent encryptFailed, decryptFailed, unchanged, succeeded, decrypted, same⟩

end RatchetMessaging.Node
