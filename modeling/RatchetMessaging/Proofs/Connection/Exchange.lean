import RatchetMessaging.Connection.Exchange
import RatchetMessaging.Proofs.Ratchet.Turn

/-!
Contract: what an exchanged message does to a connection, whatever the provider does.

Owns:
- where a ratchet key is placed, read off the tables of the state;
- the route of a received message: out of the cache, ahead on a chain that exists, or on a new
  chain; and the state that each route leaves;
- the changes that sending makes.

Does not own: who sent a message, and whether it arrives a second time.
-/

namespace RatchetMessaging

variable {σ : Type} {provider : Provider σ} {before after : σ}

namespace RatchetState

variable {state : RatchetState} {key : X25519PublicKey} {generation : UInt32}

/-! ### Placement -/

/-- The key is the peer's present one, a superseded one, or a retired one. -/
def Tracks (state : RatchetState) (key : X25519PublicKey) : Prop :=
  state.remoteKey = some key ∨ (∃ superseded ∈ state.supersededKeys, superseded.key = key) ∨
    key ∈ state.retiredKeys

theorem tracks_of_mem_placedKeys {placed : SupersededKey} (member : placed ∈ state.placedKeys) :
    state.Tracks placed.key := by
  rcases List.mem_append.1 member with superseded | present
  · exact .inr (.inl ⟨placed, superseded, rfl⟩)
  · simp only [Option.mem_toList, Option.map_eq_some_iff] at present
    obtain ⟨remoteKey, remote, rfl⟩ := present
    exact .inl remote

theorem place_of_remote (remote : state.remoteKey = some key) :
    state.place key =
      if state.receivingChain.isSome then .current state.receivingGeneration
      else .unexpected := by
  simp [place, remote]

theorem place_of_not_tracks (unknown : ¬ state.Tracks key) :
    state.place key =
      if state.remoteKey.isNone && state.receivingChain.isSome then
        .adopt state.receivingGeneration
      else .ratchet := by
  simp only [Tracks, not_or, not_exists, not_and] at unknown
  obtain ⟨notRemote, notSuperseded, notRetired⟩ := unknown
  have notFound :
      state.supersededKeys.find? (fun superseded => superseded.key = key) = none := by
    simpa using notSuperseded
  simp only [place, notRemote, notFound, notRetired, if_false]

theorem place_of_tracks (known : state.Tracks key) (notRemote : state.remoteKey ≠ some key) :
    (∃ superseded ∈ state.supersededKeys, superseded.key = key ∧
      state.place key = .previous superseded.generation) ∨ state.place key = .retired := by
  unfold place
  rw [if_neg notRemote]
  split
  · rename_i superseded found
    exact .inl ⟨superseded, List.mem_of_find?_eq_some found, by simpa using List.find?_some found,
      rfl⟩
  · rename_i notFound
    right
    have notSuperseded : ∀ superseded ∈ state.supersededKeys, superseded.key ≠ key := by
      simpa using notFound
    rcases known with remote | ⟨superseded, member, same⟩ | retired
    · exact absurd remote notRemote
    · exact absurd same (notSuperseded superseded member)
    · rw [if_pos retired]

theorem place_eq_current (placed : state.place key = .current generation) :
    state.remoteKey = some key ∧ state.receivingChain.isSome = true ∧
      generation = state.receivingGeneration := by
  by_cases remote : state.remoteKey = some key
  · rw [place_of_remote remote] at placed
    split at placed
    · rename_i hasChain
      cases placed
      exact ⟨remote, hasChain, rfl⟩
    · cases placed
  · by_cases known : state.Tracks key
    · rcases place_of_tracks known remote with ⟨_, _, _, same⟩ | same <;> simp [same] at placed
    · rw [place_of_not_tracks known] at placed
      split at placed <;> cases placed

theorem place_eq_previous (placed : state.place key = .previous generation) :
    state.remoteKey ≠ some key ∧ ⟨key, generation⟩ ∈ state.supersededKeys := by
  by_cases remote : state.remoteKey = some key
  · rw [place_of_remote remote] at placed
    split at placed <;> cases placed
  · refine ⟨remote, ?_⟩
    by_cases known : state.Tracks key
    · rcases place_of_tracks known remote with ⟨superseded, member, rfl, same⟩ | same
      · rw [same] at placed
        cases placed
        exact member
      · simp [same] at placed
    · rw [place_of_not_tracks known] at placed
      split at placed <;> cases placed

theorem place_eq_adopt (placed : state.place key = .adopt generation) :
    state.remoteKey = none ∧ state.receivingChain.isSome = true ∧
      generation = state.receivingGeneration ∧ ¬ state.Tracks key := by
  by_cases remote : state.remoteKey = some key
  · rw [place_of_remote remote] at placed
    split at placed <;> cases placed
  · by_cases known : state.Tracks key
    · rcases place_of_tracks known remote with ⟨_, _, _, same⟩ | same <;> simp [same] at placed
    · rw [place_of_not_tracks known] at placed
      split at placed
      · rename_i unknown
        cases placed
        simp only [Bool.and_eq_true, Option.isNone_iff_eq_none] at unknown
        exact ⟨unknown.1, unknown.2, rfl, known⟩
      · cases placed

theorem place_eq_ratchet (placed : state.place key = .ratchet) :
    ¬ state.Tracks key ∧ (state.remoteKey ≠ none ∨ state.receivingChain = none) := by
  by_cases remote : state.remoteKey = some key
  · rw [place_of_remote remote] at placed
    split at placed <;> cases placed
  · by_cases known : state.Tracks key
    · rcases place_of_tracks known remote with ⟨_, _, _, same⟩ | same <;> simp [same] at placed
    · rw [place_of_not_tracks known] at placed
      split at placed
      · cases placed
      · rename_i notNew
        refine ⟨known, ?_⟩
        by_cases isNone : state.remoteKey = none
        · exact .inr (by simpa [isNone] using notNew)
        · exact .inl isNone

/-- The state with a position recorded as accepted. -/
def recording (state : RatchetState) (slot : Slot) : RatchetState :=
  { state with replay := (state.replay.accept slot.generation slot.index).2 }

end RatchetState

/-- The state after a change, with no position recorded. -/
def Change.applied (change : Change) (state : RatchetState) : RatchetState :=
  (Staged.mk change none).resulting state

namespace Connection

variable {connection : Connection} {limits : RatchetLimits} {state : RatchetState}
  {message : RatchetMessage} {header : MessageHeader} {plaintext associatedData : Bytes}
  {staged : Staged}

/-! ### Receiving -/

/-- How a received message changes the state, before its position is recorded. -/
inductive Route (provider : Provider σ) (limits : RatchetLimits) (state : RatchetState)
    (header : MessageHeader) (before : σ) :
    σ → FixedBytes 32 → UInt32 → RatchetState → Prop
  /-- The key was cached for a superseded chain. -/
  | late {generation : UInt32} {key : FixedBytes 32}
      (placed : state.place header.ratchetKey = .previous generation)
      (cached : state.skipped.get? ⟨generation, header.chainIndex⟩ = some key) :
      Route provider limits state header before before key generation
        { state with skipped := state.skipped.erase ⟨generation, header.chainIndex⟩ }
  /-- The present chain, whose key may be learnt from the message. -/
  | present {after : σ} {key : FixedBytes 32} {received : RatchetState}
      (placed : state.place header.ratchetKey = .current state.receivingGeneration ∨
        state.place header.ratchetKey = .adopt state.receivingGeneration)
      (receives : RatchetState.receive provider limits header.chainIndex
        { state with remoteKey := some header.ratchetKey } before = .ok (key, received) after) :
      Route provider limits state header before after key state.receivingGeneration received
  /-- A new chain starts. -/
  | turn {middle after : σ} {turned received : RatchetState} {key : FixedBytes 32}
      (placed : state.place header.ratchetKey = .ratchet)
      (turns : state.receivingTurn provider limits header before = .ok turned middle)
      (receives : turned.receive provider limits header.chainIndex middle =
        .ok (key, received) after) :
      Route provider limits state header before after key received.receivingGeneration received

private theorem route_of_stageReceive {key : FixedBytes 32} {reception : Reception}
    {change : Change}
    (placed : state.place header.ratchetKey = .current state.receivingGeneration ∨
      state.place header.ratchetKey = .adopt state.receivingGeneration)
    (applied : reception.adopted = none →
      change.applied state = reception.apply { state with remoteKey := some header.ratchetKey })
    (received : state.stageReceive provider limits header.chainIndex before =
      .ok (key, reception) after) :
    Route provider limits state header before after key state.receivingGeneration
      (change.applied state) := by
  have notAdopted : reception.adopted = none := by
    rcases RatchetState.stageReceive_eq_ok received with
      ⟨_, _, _, _, rfl⟩ | ⟨_, _, _, _, _, _, _, _, _, _, _, _, rfl⟩ <;> rfl
  refine .present placed ?_
  rw [RatchetState.receive_eq, applied notAdopted]
  exact Crypto.bind_eq_ok.2 ⟨(key, reception), after, received, rfl⟩

/-- Every key for a received message comes by one of the routes. -/
theorem receivingKey_eq_ok {key : FixedBytes 32} {generation : UInt32} {change : Change}
    (found : receivingKey provider limits state header before =
      .ok (key, generation, change) after) :
    Route provider limits state header before after key generation (change.applied state) := by
  cases placed : state.place header.ratchetKey with
  | current generation =>
    simp only [receivingKey, placed, Crypto.bind_eq_ok, Crypto.pure_eq_ok, Prod.exists,
      Prod.mk.injEq] at found
    obtain ⟨_, reception, _, received, ⟨rfl, rfl, rfl⟩, rfl⟩ := found
    obtain ⟨remote, _, rfl⟩ := RatchetState.place_eq_current placed
    refine route_of_stageReceive (.inl placed) (fun _ => ?_) received
    rw [← remote]
    rfl
  | adopt generation =>
    simp only [receivingKey, placed, Crypto.bind_eq_ok, Crypto.pure_eq_ok, Prod.exists,
      Prod.mk.injEq] at found
    obtain ⟨_, reception, _, received, ⟨rfl, rfl, rfl⟩, rfl⟩ := found
    obtain ⟨_, _, rfl, _⟩ := RatchetState.place_eq_adopt placed
    refine route_of_stageReceive (.inr placed) (fun notAdopted => ?_) received
    simp [Change.applied, Staged.resulting, Reception.apply, notAdopted]
  | previous generation =>
    cases cached : state.skipped.get? ⟨generation, header.chainIndex⟩ with
    | none => simp [receivingKey, placed, cached] at found
    | some held =>
      simp only [receivingKey, placed, cached, Crypto.pure_eq_ok, Prod.mk.injEq] at found
      obtain ⟨⟨rfl, rfl, rfl⟩, rfl⟩ := found
      exact .late placed cached
  | ratchet =>
    simp only [receivingKey, placed, Crypto.bind_eq_ok, Crypto.pure_eq_ok, Prod.exists,
      Prod.mk.injEq] at found
    obtain ⟨turned, middle, turns, _, received, _, receives, ⟨rfl, rfl, rfl⟩, rfl⟩ := found
    exact .turn placed turns receives
  | retired => simp [receivingKey, placed] at found
  | unexpected => simp [receivingKey, placed] at found

/-- Reception leaves the sending side alone. Only a turn moves the root key. -/
theorem Route.frame {key : FixedBytes 32} {generation : UInt32} {received : RatchetState}
    (route : Route provider limits state header before after key generation received) :
    received.keyPair = state.keyPair ∧ received.sendingChain = state.sendingChain ∧
      received.previousSendingChainLength = state.previousSendingChainLength ∧
      received.associatedData = state.associatedData ∧ received.replay = state.replay ∧
      (state.place header.ratchetKey ≠ .ratchet →
        received.rootKey = state.rootKey ∧
          received.sendingRatchetPending = state.sendingRatchetPending ∧
          received.receivingGeneration = state.receivingGeneration) := by
  cases route with
  | late placed cached => exact ⟨rfl, rfl, rfl, rfl, rfl, fun _ => ⟨rfl, rfl, rfl⟩⟩
  | present placed receives =>
    obtain ⟨_, _, rfl⟩ := RatchetState.receive_frame receives
    exact ⟨rfl, rfl, rfl, rfl, rfl, fun _ => ⟨rfl, rfl, rfl⟩⟩
  | turn placed turns receives =>
    obtain ⟨_, _, rfl⟩ := RatchetState.receive_frame receives
    obtain ⟨passed, _, _, _, _, _, skipped, _, _, _, rfl⟩ := RatchetState.receivingTurn_eq_ok turns
    obtain ⟨_, _, rfl⟩ := RatchetState.skipReceivingUntil_frame skipped
    obtain ⟨_, _, _, superseded⟩ := RatchetState.supersede_eq limits _
    rw [superseded]
    exact ⟨rfl, rfl, rfl, rfl, rfl, fun notTurn => absurd placed notTurn⟩

/-- A known key of the peer may be replaced, but is not forgotten. -/
theorem Route.remoteKey {key : FixedBytes 32} {generation : UInt32} {received : RatchetState}
    (route : Route provider limits state header before after key generation received)
    (known : state.remoteKey.isSome = true) : received.remoteKey.isSome = true := by
  cases route with
  | late placed cached => exact known
  | present placed receives =>
    obtain ⟨_, _, rfl⟩ := RatchetState.receive_frame receives
    rfl
  | turn placed turns receives =>
    obtain ⟨_, _, rfl⟩ := RatchetState.receive_frame receives
    obtain ⟨_, _, _, _, _, _, _, _, _, _, rfl⟩ := RatchetState.receivingTurn_eq_ok turns
    rfl

/-- A message that starts a new chain starts the next generation, and answers are due. -/
theorem Route.turned {key : FixedBytes 32} {generation : UInt32} {received : RatchetState}
    (route : Route provider limits state header before after key generation received)
    (placed : state.place header.ratchetKey = .ratchet) :
    state.receivingGeneration ≠ 0xFFFFFFFF ∧ generation = state.receivingGeneration + 1 ∧
      received.receivingGeneration = state.receivingGeneration + 1 ∧
      received.remoteKey = some header.ratchetKey ∧ received.sendingRatchetPending = true ∧
      ∃ shared rootKey chainKey drawn agreed derived,
        state.keyPair.shared provider header.ratchetKey drawn = .ok shared agreed ∧
        RatchetState.stepRoot provider state.rootKey shared agreed =
          .ok (rootKey, chainKey) derived ∧
        received.rootKey = rootKey := by
  cases route with
  | late wasPlaced _ => simp [placed] at wasPlaced
  | present wasPlaced _ => simp [placed] at wasPlaced
  | turn _ turns receives =>
    obtain ⟨_, _, rfl⟩ := RatchetState.receive_frame receives
    obtain ⟨passed, _, _, _, _, _, skipped, notLast, agreement, stepped, rfl⟩ :=
      RatchetState.receivingTurn_eq_ok turns
    obtain ⟨_, _, rfl⟩ := RatchetState.skipReceivingUntil_frame skipped
    exact ⟨notLast, rfl, rfl, rfl, rfl, _, _, _, _, _, _, agreement, stepped, rfl⟩

theorem ofExcept_state_eq_ok :
    (Crypto.ofExcept connection.state : Crypto σ RatchetState) before = .ok state after ↔
      connection.phase = .established state ∧ before = after := by
  rw [Crypto.ofExcept_eq_ok]
  unfold Connection.state
  split <;> simp_all

/-- A message is decrypted when its position is not refused, under the key that is found for it, and
its position is recorded. -/
theorem stageDecrypt_steps
    (decrypted : connection.stageDecrypt provider message associatedData before =
      .ok (plaintext, staged) after) :
    ∃ state key generation change middle,
      connection.phase = .established state ∧
      isReplayed state message.header = false ∧
      receivingKey provider connection.limits state message.header before =
        .ok (key, generation, change) middle ∧
      MessageCipher.decrypt provider key message.ciphertext
        (MessageCipher.associatedData state.associatedData associatedData message.header) middle =
          .ok plaintext after ∧
      staged = ⟨change, some ⟨generation, message.header.chainIndex⟩⟩ := by
  simp only [stageDecrypt, Crypto.bind_eq_ok, ofExcept_state_eq_ok] at decrypted
  obtain ⟨state, _, ⟨isState, rfl⟩, decrypted⟩ := decrypted
  cases replayed : isReplayed state message.header with
  | true => simp [replayed, Crypto.bind_eq_ok] at decrypted
  | false =>
    simp only [replayed, Bool.false_eq_true, if_false, Crypto.bind_eq_ok, Crypto.pure_eq_ok,
      Prod.exists, Prod.mk.injEq] at decrypted
    obtain ⟨key, generation, change, middle, found, _, _, opened, ⟨rfl, rfl⟩, rfl⟩ := decrypted
    exact ⟨state, key, generation, change, middle, isState, replayed, found, opened, rfl⟩

/-- The key of a message that is decrypted comes by one of the routes. -/
theorem stageDecrypt_eq_ok
    (decrypted : connection.stageDecrypt provider message associatedData before =
      .ok (plaintext, staged) after) :
    ∃ state changed key generation middle,
      connection.phase = .established state ∧
      isReplayed state message.header = false ∧
      Route provider connection.limits state message.header before middle key generation
        changed ∧
      MessageCipher.decrypt provider key message.ciphertext
        (MessageCipher.associatedData state.associatedData associatedData message.header) middle =
          .ok plaintext after ∧
      staged.accepted = some ⟨generation, message.header.chainIndex⟩ ∧
      staged.resulting state = changed.recording ⟨generation, message.header.chainIndex⟩ := by
  obtain ⟨state, key, generation, change, middle, isState, notReplayed, found, opened, rfl⟩ :=
    stageDecrypt_steps decrypted
  exact ⟨state, _, key, generation, middle, isState, notReplayed, receivingKey_eq_ok found, opened,
    rfl, rfl⟩

theorem commit_of_established (isState : connection.phase = .established state)
    (staged : Staged) :
    connection.commit staged =
      { connection with phase := .established (staged.resulting state) } := by
  simp [commit, isState]

/-- What decrypting in one step does: the position of the message is recorded in the state that its
route leaves. -/
theorem decryptNext_eq_ok {next : Connection}
    (decrypted : connection.decryptNext provider message associatedData before =
      .ok (plaintext, next) after) :
    ∃ state changed key generation middle,
      connection.phase = .established state ∧
      isReplayed state message.header = false ∧
      Route provider connection.limits state message.header before middle key generation
        changed ∧
      MessageCipher.decrypt provider key message.ciphertext
        (MessageCipher.associatedData state.associatedData associatedData message.header) middle =
          .ok plaintext after ∧
      next = { connection with
        phase := .established (changed.recording ⟨generation, message.header.chainIndex⟩) } := by
  simp only [decryptNext, Crypto.bind_eq_ok, Crypto.pure_eq_ok, Prod.exists,
    Prod.mk.injEq] at decrypted
  obtain ⟨_, staged, _, decrypts, ⟨rfl, rfl⟩, rfl⟩ := decrypted
  obtain ⟨state, changed, key, generation, middle, isState, notReplayed, route, opened, _,
    resulting⟩ := stageDecrypt_eq_ok decrypts
  refine ⟨state, changed, key, generation, middle, isState, notReplayed, route, opened, ?_⟩
  rw [commit_of_established isState, resulting]

/-! ### Sending -/

/-- The state in which the next message takes its key: the present one, or the one after a
turn of the sender. -/
inductive SendsFrom (provider : Provider σ) (limits : RatchetLimits) (state : RatchetState) :
    σ → σ → RatchetState → Prop
  | same {before : σ} (notDue : needsTurn limits state = false) :
      SendsFrom provider limits state before before state
  | turned {before after : σ} {turned : RatchetState} (due : needsTurn limits state = true)
      (turns : state.sendingTurn provider before = .ok turned after) :
      SendsFrom provider limits state before after turned

/-- The header of the next message on a chain. -/
def headerAt (state : RatchetState) (index : UInt32) : MessageHeader :=
  ⟨state.keyPair.publicKey, state.previousSendingChainLength, index⟩

/-- A message takes the next key of the sending chain, which moves on by one position. -/
theorem nextSendingKey_eq_ok {messageKey : MessageKey} {header : MessageHeader} {change : Change}
    (found : nextSendingKey provider limits state before =
      .ok (messageKey, header, change) after) :
    ∃ source chain next middle,
      SendsFrom provider limits state before middle source ∧
      source.sendingChain = some chain ∧
      chain.advance provider middle = .ok (messageKey, next) after ∧
      header = headerAt source messageKey.index ∧
      (Staged.mk change none).ratcheted = needsTurn limits state ∧
      change.applied state = { source with sendingChain := some next } := by
  cases due : needsTurn limits state with
  | true =>
    simp only [nextSendingKey, due, if_true, Crypto.bind_eq_ok] at found
    obtain ⟨turned, middle, turns, found⟩ := found
    cases isChain : turned.sendingChain with
    | none => simp [isChain] at found
    | some chain =>
      simp only [isChain, Crypto.bind_eq_ok, Crypto.pure_eq_ok, Prod.exists,
        Prod.mk.injEq] at found
      obtain ⟨_, next, _, advanced, ⟨rfl, rfl, rfl⟩, rfl⟩ := found
      exact ⟨turned, chain, next, middle, .turned due turns, isChain, advanced, rfl,
        rfl, rfl⟩
  | false =>
    cases isChain : state.sendingChain with
    | none => simp [nextSendingKey, due, isChain] at found
    | some chain =>
      simp only [nextSendingKey, due, isChain, Bool.false_eq_true, if_false, Crypto.bind_eq_ok,
        Crypto.pure_eq_ok, Prod.exists, Prod.mk.injEq] at found
      obtain ⟨_, next, _, advanced, ⟨rfl, rfl, rfl⟩, rfl⟩ := found
      exact ⟨state, chain, next, before, .same due, isChain, advanced, rfl, rfl, rfl⟩

/-- A message is encrypted under the next key of the chain on which it is sent. -/
theorem stageEncrypt_eq_ok
    (encrypted : connection.stageEncrypt provider plaintext associatedData before =
      .ok (message, staged) after) :
    ∃ state source chain moved messageKey middle advanced,
      connection.phase = .established state ∧
      SendsFrom provider connection.limits state before middle source ∧
      source.sendingChain = some chain ∧
      chain.advance provider middle = .ok (messageKey, moved) advanced ∧
      MessageCipher.encrypt provider messageKey.key plaintext
        (MessageCipher.associatedData state.associatedData associatedData
          (headerAt source messageKey.index)) advanced = .ok message.ciphertext after ∧
      message.header = headerAt source messageKey.index ∧
      staged.ratcheted = needsTurn connection.limits state ∧
      staged.resulting state = { source with sendingChain := some moved } := by
  simp only [stageEncrypt, Crypto.bind_eq_ok, Crypto.pure_eq_ok, ofExcept_state_eq_ok,
    Prod.exists, Prod.mk.injEq] at encrypted
  obtain ⟨state, _, ⟨isState, rfl⟩, messageKey, header, change, _, found, _, _, sealed,
    ⟨rfl, rfl⟩, rfl⟩ := encrypted
  obtain ⟨source, chain, moved, middle, sends, isChain, advanced, rfl, ratcheted, changed⟩ :=
    nextSendingKey_eq_ok found
  exact ⟨state, source, chain, moved, messageKey, middle, _, isState, sends, isChain, advanced,
    sealed, rfl, ratcheted, changed⟩

/-- A message under a new ratchet key counts as a turn, and no other message that is sent. -/
theorem ratchetSteps_of_stageEncrypt
    (established : connection.phase = .established state)
    (encrypted : connection.stageEncrypt provider plaintext associatedData before =
      .ok (message, staged) after) :
    (staged.resulting state).ratchetSteps = state.ratchetSteps ↔ staged.ratcheted = false := by
  obtain ⟨_, source, chain, moved, _, _, _, isState, sends, _, _, _, _, ratcheted, changed⟩ :=
    stageEncrypt_eq_ok encrypted
  rw [established] at isState
  cases isState
  rw [changed, ratcheted]
  cases sends with
  | same notDue => simp [notDue]
  | turned due turns =>
    obtain ⟨_, _, _, _, _, _, _, _, _, _, _, rfl⟩ := RatchetState.sendingTurn_eq_ok turns
    simp [due]

/-- What encrypting in one step does: stage, then commit. -/
theorem encryptNext_eq_ok {next : Connection}
    (encrypted : connection.encryptNext provider plaintext associatedData before =
      .ok (message, next) after) :
    ∃ staged, connection.stageEncrypt provider plaintext associatedData before =
        .ok (message, staged) after ∧ next = connection.commit staged := by
  simp only [encryptNext, Crypto.bind_eq_ok, Crypto.pure_eq_ok, Prod.exists,
    Prod.mk.injEq] at encrypted
  obtain ⟨_, staged, _, encrypts, ⟨rfl, rfl⟩, rfl⟩ := encrypted
  exact ⟨staged, encrypts, rfl⟩

end Connection

end RatchetMessaging
