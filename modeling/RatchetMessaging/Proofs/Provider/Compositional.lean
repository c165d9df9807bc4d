import RatchetMessaging.Connection.Exchange
import RatchetMessaging.Proofs.Ratchet.Reception

/-!
Contract: what is true of every call of a primitive is true of what is made of the calls.

Owns:
- `Crypto.Compositional`, for a property of computations that passes from the steps of a sequence
  to the sequence;
- the steps of both ratchets, and of the messages out and in, which have such a property when the
  primitives have it that they call.

Does not own: any such property.
-/

namespace RatchetMessaging

/-- The property passes from the steps of a sequence to the sequence. -/
structure Crypto.Compositional {σ : Type} (holds : ∀ α : Type, Crypto σ α → Prop) : Prop where
  returns : ∀ {α : Type} (value : α), holds α (pure value)
  fails : ∀ {α : Type} (failure : Error), holds α (throw failure)
  bind : ∀ {α β : Type} {first : Crypto σ α} {next : α → Crypto σ β},
    holds α first → (∀ middle, holds β (next middle)) → holds β (first >>= next)

variable {σ : Type} {holds : ∀ α : Type, Crypto σ α → Prop} {provider : Provider σ}

theorem Crypto.Compositional.ofExcept (compositional : Crypto.Compositional holds) {α : Type}
    (check : Except Error α) : holds α (Crypto.ofExcept check) := by
  cases check with
  | ok value => exact compositional.returns value
  | error failure => exact compositional.fails failure

/-- The primitives that messages in both directions call have the property. -/
structure Provider.Derives (holds : ∀ α : Type, Crypto σ α → Prop) (provider : Provider σ) :
    Prop where
  compositional : Crypto.Compositional holds
  agrees : ∀ secret peer, holds _ (provider.x25519Shared secret peer)
  derives : ∀ salt material info size, holds _ (provider.hkdf salt material info size)
  macs : ∀ key message, holds _ (provider.hmac key message)

/-- The primitives that give a new key pair have the property. -/
structure Provider.Draws (holds : ∀ α : Type, Crypto σ α → Prop) (provider : Provider σ) :
    Prop where
  draws : ∀ size, holds _ (provider.randomBytes size)
  publishes : ∀ secret, holds _ (provider.x25519Public secret)

namespace Provider.Derives

/-! ### Chains -/

theorem advance (met : provider.Derives holds) (chain : Chain) :
    holds _ (chain.advance provider) := by
  unfold Chain.advance
  split
  · exact met.compositional.fails _
  · refine met.compositional.bind (met.macs _ _) fun messageKey => ?_
    exact met.compositional.bind (met.macs _ _) fun nextKey => met.compositional.returns _

theorem advanceBy (met : provider.Derives holds) (count : Nat) (chain : Chain) :
    holds _ (chain.advanceBy provider count) := by
  induction count generalizing chain with
  | zero => exact met.compositional.returns _
  | succ count inductionHypothesis =>
    refine met.compositional.bind (met.advance chain) fun first => ?_
    exact met.compositional.bind (inductionHypothesis first.2) fun _ =>
      met.compositional.returns _

/-! ### Reception and turns -/

variable {limits : RatchetLimits}

theorem skipReceivingUntil (met : provider.Derives holds) (limit : UInt32)
    (state : RatchetState) : holds _ (state.skipReceivingUntil provider limits limit) := by
  unfold RatchetState.skipReceivingUntil
  split
  · exact met.compositional.returns _
  · split
    · exact met.compositional.returns _
    · refine met.compositional.bind (met.compositional.ofExcept _) fun _ => ?_
      rw [Chain.cacheNext_eq]
      refine met.compositional.bind ?_ fun _ => met.compositional.returns _
      exact met.compositional.bind (met.advanceBy _ _) fun _ => met.compositional.returns _

theorem stageReceive (met : provider.Derives holds) (index : UInt32) (state : RatchetState) :
    holds _ (state.stageReceive provider limits index) := by
  unfold RatchetState.stageReceive
  split
  · exact met.compositional.fails _
  · split
    · simp only
      split
      · exact met.compositional.fails _
      · exact met.compositional.returns _
    · refine met.compositional.bind (met.compositional.ofExcept _) fun _ => ?_
      refine met.compositional.bind (met.advanceBy _ _) fun passed => ?_
      exact met.compositional.bind (met.advance passed.2) fun _ => met.compositional.returns _

theorem receive (met : provider.Derives holds) (index : UInt32) (state : RatchetState) :
    holds _ (state.receive provider limits index) := by
  rw [RatchetState.receive_eq]
  exact met.compositional.bind (met.stageReceive index state) fun _ =>
    met.compositional.returns _

theorem stepRoot (met : provider.Derives holds) (rootKey shared : FixedBytes 32) :
    holds _ (RatchetState.stepRoot provider rootKey shared) :=
  met.compositional.bind (met.derives _ _ _ _) fun _ => met.compositional.returns _

theorem receivingTurn (met : provider.Derives holds) (header : MessageHeader)
    (state : RatchetState) : holds _ (state.receivingTurn provider limits header) := by
  refine met.compositional.bind (met.skipReceivingUntil _ _) fun skipped => ?_
  simp only
  split
  · exact met.compositional.fails _
  · refine met.compositional.bind (met.agrees _ _) fun shared => ?_
    exact met.compositional.bind (met.stepRoot _ _) fun derived => met.compositional.returns _

theorem generate (met : provider.Derives holds) (draws : provider.Draws holds) :
    holds _ (X25519KeyPair.generate provider) :=
  met.compositional.bind (draws.draws 32) fun secret =>
    met.compositional.bind (draws.publishes secret) fun _ => met.compositional.returns _

theorem sendingTurn (met : provider.Derives holds) (draws : provider.Draws holds)
    (state : RatchetState) : holds _ (state.sendingTurn provider) := by
  unfold RatchetState.sendingTurn
  split
  · exact met.compositional.fails _
  · refine met.compositional.bind (met.generate draws) fun keyPair => ?_
    refine met.compositional.bind (met.agrees _ _) fun shared => ?_
    exact met.compositional.bind (met.stepRoot _ _) fun _ => met.compositional.returns _

/-! ### Messages -/

theorem nextSendingKey (met : provider.Derives holds) (draws : provider.Draws holds)
    (state : RatchetState) : holds _ (Connection.nextSendingKey provider limits state) := by
  unfold Connection.nextSendingKey
  split
  · refine met.compositional.bind (met.sendingTurn draws state) fun turned => ?_
    split
    · exact met.compositional.fails _
    · exact met.compositional.bind (met.advance _) fun _ => met.compositional.returns _
  · split
    · exact met.compositional.fails _
    · exact met.compositional.bind (met.advance _) fun _ => met.compositional.returns _

theorem receivingKey (met : provider.Derives holds) (state : RatchetState)
    (header : MessageHeader) :
    holds _ (Connection.receivingKey provider limits state header) := by
  unfold Connection.receivingKey
  cases state.place header.ratchetKey with
  | current generation =>
    exact met.compositional.bind (met.stageReceive _ _) fun _ => met.compositional.returns _
  | adopt generation =>
    exact met.compositional.bind (met.stageReceive _ _) fun _ => met.compositional.returns _
  | previous generation =>
    simp only
    split
    · exact met.compositional.fails _
    · exact met.compositional.returns _
  | ratchet =>
    exact met.compositional.bind (met.receivingTurn _ _) fun turned =>
      met.compositional.bind (met.receive _ turned) fun _ => met.compositional.returns _
  | retired => exact met.compositional.fails _
  | unexpected => exact met.compositional.fails _

theorem material (met : provider.Derives holds) (messageKey : FixedBytes 32) :
    holds _ (MessageCipher.material provider messageKey) :=
  met.compositional.bind (met.derives _ _ _ _) fun _ => met.compositional.returns _

/-- A decryption has the property when the primitive that opens messages has it, too. -/
theorem stageDecrypt (met : provider.Derives holds)
    (opens : ∀ key nonce ciphertext associatedData,
      holds _ (provider.aeadDecrypt key nonce ciphertext associatedData))
    (connection : Connection) (message : RatchetMessage) (associatedData : Bytes) :
    holds _ (connection.stageDecrypt provider message associatedData) := by
  refine met.compositional.bind (met.compositional.ofExcept _) fun state => ?_
  simp only
  split
  · exact met.compositional.fails _
  · refine met.compositional.bind (met.receivingKey _ _) fun found => ?_
    refine met.compositional.bind ?_ fun plaintext => met.compositional.returns _
    exact met.compositional.bind (met.material _) fun _ => opens _ _ _ _

end Provider.Derives

/-! ### Stored sessions -/

namespace Crypto.Compositional

theorem ofStored (compositional : Crypto.Compositional holds)
    (publishes : ∀ secret, holds _ (provider.x25519Public secret)) (secret publicKey : Bytes) :
    holds _ (X25519KeyPair.ofStored provider secret publicKey) := by
  unfold X25519KeyPair.ofStored
  split
  · exact compositional.fails _
  · split
    · exact compositional.fails _
    · refine compositional.bind ?_ fun pair => ?_
      · exact compositional.bind (publishes _) fun _ => compositional.returns _
      · split
        · exact compositional.fails _
        · exact compositional.returns _

theorem ofRecord (compositional : Crypto.Compositional holds)
    (publishes : ∀ secret, holds _ (provider.x25519Public secret)) (limits : RatchetLimits)
    (record : Record.ConnectionRecord) :
    holds _ (Connection.ofRecord provider limits record) := by
  refine compositional.bind ?_ fun _ => compositional.returns _
  unfold RatchetState.ofRecord
  simp only
  split
  · exact compositional.fails _
  · split
    · exact compositional.fails _
    · refine compositional.bind (compositional.ofExcept _) fun remoteKey => ?_
      refine compositional.bind (compositional.ofExcept _) fun supersededKeys => ?_
      refine compositional.bind (compositional.ofExcept _) fun retiredKeys => ?_
      refine compositional.bind (compositional.ofExcept _) fun sendingChain => ?_
      refine compositional.bind (compositional.ofExcept _) fun receivingChain => ?_
      refine compositional.bind (compositional.ofStored publishes _ _) fun keyPair => ?_
      exact compositional.bind (compositional.ofExcept _) fun skipped => compositional.returns _

end Crypto.Compositional

end RatchetMessaging
