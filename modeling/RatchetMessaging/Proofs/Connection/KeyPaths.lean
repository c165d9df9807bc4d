import RatchetMessaging.Proofs.Connection.Acceptance
import RatchetMessaging.Proofs.Ratchet.KeyOrigin

/-!
Contract: message keys do not depend on the way by which they are found.

Owns:
- the chain that a message starts, and runs of a connection with the first keys of the chains that
  have started in them;
- that in every such run a chain is as many steps from its first key as its index says, that the
  cached keys are those of their positions, and that a message is opened under the key of its
  position, whether the key comes off the chain or out of the cache, before or after a turn, a
  failure or a restored state.

Does not own: whether a message is accepted.
-/

namespace RatchetMessaging.Connection

open RatchetState (KeysFrom)

variable {σ : Type} {provider : Provider σ} {primitives : Primitives} {before after : σ}

/-! ### Chains that start -/

/-- The chain that a turn to the key of a message starts, if the message asks for a turn. -/
def turnStart (provider : Provider σ) (limits : RatchetLimits) (state : RatchetState)
    (header : MessageHeader) (before : σ) : ChainStarts :=
  match state.place header.ratchetKey, state.receivingTurn provider limits header before with
  | .ratchet, .ok turned _ => turned.chainStart
  | _, _ => []

/-- The chain that a request starts. Only a message that is accepted starts one. -/
def newChain (provider : Provider σ) (connection : Connection) : Request → σ → ChainStarts
  | .decrypt message associatedData, before =>
    match connection.phase, connection.stageDecrypt provider message associatedData before with
    | .established state, .ok _ _ =>
      turnStart provider connection.limits state message.header before
    | _, _ => []
  | _, _ => []

/-- A run of requests, each with a provider whose authentication codes are right, and the chains
that have started in it. -/
inductive KeyedRun (primitives : Primitives) (first : Connection) :
    ChainStarts → Connection → Prop
  | start {state : RatchetState} (isState : first.phase = .established state) :
      KeyedRun primitives first state.chainStart first
  | step {σ : Type} {starts : ChainStarts} {middle : Connection}
      (run : KeyedRun primitives first starts middle) (provider : Provider σ)
      (authenticates : provider.Authenticates primitives) (request : Request) (before : σ) :
      KeyedRun primitives first (starts ++ middle.newChain provider request before)
        (middle.attempt provider request before).connection

/-! ### One step -/

section Step

variable {connection : Connection} {limits : RatchetLimits} {state received : RatchetState}
  {header : MessageHeader} {message : RatchetMessage} {plaintext associatedData : Bytes}
  {staged : Staged} {starts : ChainStarts} {key : FixedBytes 32} {generation : UInt32}

/-- The key that a message gets is that of its position, whichever way it is found. -/
theorem Route.keysFrom
    (route : Route provider limits state header before after key generation received)
    (keys : state.KeysFrom primitives starts) (authenticates : provider.Authenticates primitives) :
    received.KeysFrom primitives (starts ++ turnStart provider limits state header before) ∧
      (starts ++ turnStart provider limits state header before).Gives primitives
        ⟨generation, header.chainIndex⟩ key := by
  cases route with
  | late placed cached =>
    rw [show turnStart provider limits state header before = [] by simp [turnStart, placed],
      List.append_nil]
    refine ⟨keys.of_same_chain rfl rfl (fun _ _ look => ?_), keys.cached _ _ cached⟩
    exact SkippedKeys.get?_of_get?_erase look
  | present placed receives =>
    have learnt : KeysFrom primitives starts { state with remoteKey := some header.ratchetKey } :=
      keys.of_same_chain rfl rfl (fun _ _ look => look)
    rw [show turnStart provider limits state header before = [] by
      rcases placed with placed | placed <;> simp [turnStart, placed], List.append_nil]
    exact learnt.receive authenticates receives
  | @turn _ _ turned _ _ placed turns receives =>
    have sameGeneration : received.receivingGeneration = turned.receivingGeneration := by
      obtain ⟨_, _, rfl⟩ := RatchetState.receive_frame receives
      rfl
    rw [show turnStart provider limits state header before = turned.chainStart by
      simp [turnStart, placed, turns], sameGeneration]
    exact (keys.receivingTurn authenticates turns).receive authenticates receives

/-- A message that is decrypted is opened under the key of its position, and all keys come from the
first keys of their chains from then on. -/
theorem stageDecrypt_keysFrom (isState : connection.phase = .established state)
    (keys : state.KeysFrom primitives starts) (authenticates : provider.Authenticates primitives)
    (decrypted : connection.stageDecrypt provider message associatedData before =
      .ok (plaintext, staged) after) :
    (staged.resulting state).KeysFrom primitives
        (starts ++ connection.newChain provider (.decrypt message associatedData) before) ∧
      ∃ key slot change middle,
        receivingKey provider connection.limits state message.header before =
          .ok (key, slot.generation, change) middle ∧
        MessageCipher.decrypt provider key message.ciphertext
          (MessageCipher.associatedData state.associatedData associatedData message.header) middle =
            .ok plaintext after ∧
        staged.accepted = some slot ∧ slot.index = message.header.chainIndex ∧
        (starts ++ connection.newChain provider (.decrypt message associatedData) before).Gives
          primitives slot key := by
  obtain ⟨_, key, generation, change, middle, same, _, found, opened, rfl⟩ :=
    stageDecrypt_steps decrypted
  cases isState.symm.trans same
  obtain ⟨receivedKeys, gives⟩ := (receivingKey_eq_ok found).keysFrom keys authenticates
  have starting : connection.newChain provider (.decrypt message associatedData) before =
      turnStart provider connection.limits state message.header before := by
    simp only [newChain, isState, decrypted]
  rw [starting]
  refine ⟨?_, key, ⟨generation, message.header.chainIndex⟩, change, middle, found, opened, rfl, rfl,
    gives⟩
  -- The position that is recorded is no key.
  exact receivedKeys.of_same_chain rfl rfl (fun _ _ look => look)

/-- Sending, asking for a turn and restoring leave the receiving chain alone and cache no keys. -/
theorem Performs.keysFrom {request : Request} {accepted : Option Acceptance}
    (performs : Performs provider connection state request accepted limits received)
    (keys : state.KeysFrom primitives starts)
    (notRead : ∀ message associatedData, request ≠ .decrypt message associatedData) :
    received.KeysFrom primitives starts := by
  cases performs with
  | sent sends isChain advanced =>
    cases sends with
    | same notDue =>
      exact keys.of_same_chain rfl rfl (fun _ _ look => look)
    | turned due turns =>
      obtain ⟨_, _, _, _, _, _, _, _, _, _, _, rfl⟩ := RatchetState.sendingTurn_eq_ok turns
      exact keys.of_same_chain rfl rfl (fun _ _ look => look)
  | forced =>
    exact keys.of_same_chain rfl rfl (fun _ _ look => look)
  | read route => exact absurd rfl (notRead _ _)
  | restored reads => exact keys.restored reads

/-- Along a request, also one that fails, all keys come from the first keys of their chains. -/
theorem attempt_keysFrom (isState : connection.phase = .established state)
    (keys : state.KeysFrom primitives starts) (authenticates : provider.Authenticates primitives)
    (request : Request) (before : σ) :
    ∃ result,
      (connection.attempt provider request before).connection.phase = .established result ∧
      result.KeysFrom primitives (starts ++ connection.newChain provider request before) := by
  by_cases reads : ∃ message associatedData, request = .decrypt message associatedData
  · obtain ⟨message, associatedData, rfl⟩ := reads
    cases decrypts : connection.stageDecrypt provider message associatedData before with
    | ok value after =>
      have performed : connection.perform provider (.decrypt message associatedData) before =
          .ok (value.2.accepted.map (Acceptance.mk message.header.ratchetKey),
            connection.commit value.2) after :=
        Crypto.bind_of_ok decrypts _
      refine ⟨value.2.resulting state, ?_,
        (stageDecrypt_keysFrom isState keys authenticates decrypts).1⟩
      simp only [attempt, performed, commit_of_established isState]
    | error failure after =>
      have performed : connection.perform provider (.decrypt message associatedData) before =
          .error failure after :=
        Crypto.bind_of_error decrypts _
      refine ⟨state, by simp only [attempt, performed, isState], ?_⟩
      simpa only [newChain, isState, decrypts, List.append_nil] using keys
  · simp only [not_exists] at reads
    have noChain : connection.newChain provider request before = [] := by
      cases request with
      | decrypt message associatedData => exact absurd rfl (reads message associatedData)
      | encrypt plaintext associatedData => rfl
      | forceRatchet => rfl
      | restore limits => rfl
    rw [noChain, List.append_nil]
    rcases attempt_cases isState provider request before with
      ⟨same, _⟩ | ⟨_, _, result, isNext, _, performs⟩
    · exact ⟨state, by rw [same, isState], keys⟩
    · exact ⟨result, by rw [isNext], performs.keysFrom keys reads⟩

end Step

/-! ### Runs -/

/-- A state that has just been established has a receiving chain that passed nothing, or none. -/
theorem establish_keysFrom {seed : SessionSeed} {fresh first : Connection} (primitives : Primitives)
    (established : fresh.establish provider seed before = .ok first after) :
    ∃ state, first.phase = .established state ∧
      state.KeysFrom primitives state.chainStart := by
  obtain ⟨state, seeded, rfl⟩ := establish_eq_ok established
  refine ⟨state, rfl, RatchetState.keysFrom_chainStart ?_ ?_⟩
  · obtain ⟨_, _, _, _, ⟨_, _, _, _, rfl⟩ | ⟨_, _, _, _, rfl⟩⟩ := RatchetState.ofSeed_eq_ok seeded
    · intro chain isChain
      cases isChain
    · intro chain isChain
      cases isChain
      rfl
  · obtain ⟨_, _, _, _, ⟨_, _, _, _, rfl⟩ | ⟨_, _, _, _, rfl⟩⟩ := RatchetState.ofSeed_eq_ok seeded
    · exact fun _ => rfl
    · exact fun _ => rfl

theorem KeyedRun.keysFrom {first last : Connection} {starts : ChainStarts}
    (run : KeyedRun primitives first starts last)
    (begins : ∃ state, first.phase = .established state ∧
      state.KeysFrom primitives state.chainStart) :
    ∃ state, last.phase = .established state ∧ state.KeysFrom primitives starts := by
  induction run with
  | start isState =>
    obtain ⟨_, same, keys⟩ := begins
    cases isState.symm.trans same
    exact ⟨_, isState, keys⟩
  | step run provider authenticates request before inductionHypothesis =>
    obtain ⟨state, isState, keys⟩ := inductionHypothesis
    exact attempt_keysFrom isState keys authenticates request before

/-- In every run of a connection from the beginning of its session, where authentication codes are a
function of key and message, each generation has one chain with one first key. From it follow the
key of the chain, as many steps on as the chain has passed positions, the cached key of every
position, and the key under which any further message is opened, whichever way it is found. -/
theorem message_keys_are_fixed_by_position {seed : SessionSeed} {fresh first last : Connection}
    {starts : ChainStarts} (established : fresh.establish provider seed before = .ok first after)
    (run : KeyedRun primitives first starts last) :
    ∃ state, last.phase = .established state ∧
      (starts.map Prod.fst).Nodup ∧
      (∀ chain, state.receivingChain = some chain →
        ∃ firstKey, (state.receivingGeneration, firstKey) ∈ starts ∧
          chain.key = primitives.chainKeyAt firstKey chain.index.toNat) ∧
      (∀ slot key, state.skipped.get? slot = some key →
        ∃ firstKey, (slot.generation, firstKey) ∈ starts ∧
          key = primitives.messageKeyAt firstKey slot.index) ∧
      ∀ {τ : Type} (opener : Provider τ), opener.Authenticates primitives →
        ∀ (message : RatchetMessage) (associatedData : Bytes) (now : τ)
          (acceptance : Option Acceptance),
        (last.attempt opener (.decrypt message associatedData) now).result = .ok acceptance →
        ∃ key slot change middle plaintext later,
          acceptance = some ⟨message.header.ratchetKey, slot⟩ ∧
          slot.index = message.header.chainIndex ∧
          receivingKey opener last.limits state message.header now =
            .ok (key, slot.generation, change) middle ∧
          MessageCipher.decrypt opener key message.ciphertext
            (MessageCipher.associatedData state.associatedData associatedData message.header)
              middle = .ok plaintext later ∧
          ∃ firstKey,
            (slot.generation, firstKey) ∈
              starts ++ last.newChain opener (.decrypt message associatedData) now ∧
            key = primitives.messageKeyAt firstKey slot.index := by
  obtain ⟨state, isState, keys⟩ := run.keysFrom (establish_keysFrom primitives established)
  refine ⟨state, isState, keys.once, keys.chain, keys.cached, ?_⟩
  intro τ opener authenticates message associatedData now acceptance accepts
  obtain ⟨later, performed⟩ := attempt_of_ok accepts
  simp only [perform, Crypto.bind_eq_ok, Crypto.pure_eq_ok, Prod.exists, Prod.mk.injEq] at performed
  obtain ⟨plaintext, staged, _, decrypted, ⟨rfl, _⟩, rfl⟩ := performed
  obtain ⟨_, key, slot, change, middle, found, opened, isSlot, isIndex, gives⟩ :=
    stageDecrypt_keysFrom isState keys authenticates decrypted
  exact ⟨key, slot, change, middle, plaintext, _, by rw [isSlot]; rfl, isIndex, found, opened,
    gives⟩

/-- A key that was passed over, and then restored with its state, opens its message. -/
theorem message_keys_are_fixed_by_position_sample :
    ∃ (first last : Connection) (message : RatchetMessage) (starts : ChainStarts)
      (state : RatchetState) (key firstKey : FixedBytes 32),
      (∃ after, (new 2 (.sample 100)).establish .transparent .samplePeer 0 = .ok first after) ∧
      KeyedRun .transparent first starts last ∧ last.phase = .established state ∧
      state.skipped.get? ⟨0, 0⟩ = some key ∧
      (last.attempt .transparent (.decrypt message []) 0).result =
        .ok (some ⟨message.header.ratchetKey, ⟨0, 0⟩⟩) ∧
      (0, firstKey) ∈ starts ∧ key = Primitives.transparent.messageKeyAt firstKey 0 := by
  obtain ⟨first, _, late, passing, _, _, _, _, established, _, _, _, cached, accepts⟩ :
      ∃ (first sender : Connection) (late passing : RatchetMessage) (moved sent : Connection)
        (begun ready : Nat),
        (new 2 (.sample 100)).establish .transparent .samplePeer 0 = .ok first begun ∧
        (new 1 (.sample 100)).establish .transparent .sample 0 = .ok sender ready ∧
        sender.encryptNext .transparent [1] [] ready = .ok (late, moved) ready ∧
        moved.encryptNext .transparent [2] [] ready = .ok (passing, sent) ready ∧
        (((first.attempt .transparent (.decrypt passing []) 0).connection.attempt .transparent
          (.restore (.sample 100)) 0).connection.state.toOption.bind
            (fun state => state.skipped.get? ⟨0, 0⟩)).isSome = true ∧
        (((first.attempt .transparent (.decrypt passing []) 0).connection.attempt .transparent
          (.restore (.sample 100)) 0).connection.attempt .transparent (.decrypt late []) 0).result =
            .ok (some ⟨late.header.ratchetKey, ⟨0, 0⟩⟩) :=
    ⟨_, _, _, _, _, _, _, _, rfl, rfl, rfl, rfl, by decide +kernel, by decide +kernel⟩
  have authenticates := Provider.transparent_dependable.authenticates
  obtain ⟨_, isFirst, _⟩ := establish_keysFrom .transparent established
  have passed :=
    (KeyedRun.start isFirst).step .transparent authenticates (.decrypt passing []) 0
  have run := passed.step .transparent authenticates (.restore (.sample 100)) 0
  obtain ⟨state, isState, _, _, keys, _⟩ := message_keys_are_fixed_by_position established run
  obtain ⟨key, found⟩ := Option.isSome_iff_exists.1 cached
  simp only [Connection.state, isState, Except.toOption, Option.bind_some] at found
  obtain ⟨firstKey, member, value⟩ := keys _ _ found
  exact ⟨first, _, late, _, state, key, firstKey, ⟨_, established⟩, run, isState, found, accepts,
    member, value⟩

end RatchetMessaging.Connection
