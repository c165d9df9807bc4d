import Mathlib.Data.List.Nodup
import RatchetMessaging.Proofs.Connection.Basic
import RatchetMessaging.Proofs.Connection.Establish
import RatchetMessaging.Proofs.Connection.Exchange
import RatchetMessaging.Proofs.Provider.Transparent
import RatchetMessaging.Proofs.Ratchet.Obtainable
import RatchetMessaging.Proofs.Ratchet.Snapshot

/-!
Contract: a position is accepted at most once.

Owns:
- the requests to an established connection, and runs of them with any provider at each step,
  where a failed request leaves the connection as it was;
- `Performs`, all that a request that succeeds can do to a state;
- the invariant of a run: cached keys lie behind the receiving chain, and the keys of the peer
  are distinct;
- the effect of one step on what is obtainable, and from it the history of a run.

Does not own: what an accepted message says.
-/

namespace RatchetMessaging

/-! ### Requests and runs -/

/-- What can be asked of an established connection. -/
inductive Request where
  | encrypt (plaintext associatedData : Bytes)
  | forceRatchet
  | decrypt (message : RatchetMessage) (associatedData : Bytes)
  /-- Export the state and read it back, under other limits. -/
  | restore (limits : RatchetLimits)

/-- An accepted position, with the ratchet key of the message. -/
structure Acceptance where
  ratchetKey : X25519PublicKey
  slot : Slot
deriving DecidableEq

/-- What a request came to. -/
structure Outcome (σ : Type) where
  result : Except Error (Option Acceptance)
  connection : Connection
  provider : σ

/-- The accepted position of a request, if there is one. -/
def Outcome.accepted {σ : Type} (outcome : Outcome σ) : List Acceptance :=
  match outcome.result with
  | .ok (some acceptance) => [acceptance]
  | _ => []

namespace Connection

variable {σ : Type}

/-- Carry out a request. -/
def perform (provider : Provider σ) (connection : Connection) :
    Request → Crypto σ (Option Acceptance × Connection)
  | .encrypt plaintext associatedData => do
    let (_, next) ← connection.encryptNext provider plaintext associatedData
    return (none, next)
  | .forceRatchet => do
    let next ← Crypto.ofExcept connection.forceRatchet
    return (none, next)
  | .decrypt message associatedData => do
    let (_, staged) ← connection.stageDecrypt provider message associatedData
    return (staged.accepted.map (Acceptance.mk message.header.ratchetKey),
      connection.commit staged)
  | .restore limits => do
    let record ← Crypto.ofExcept connection.exportRecord
    let next ← ofRecord provider limits record
    return (none, next)

/-- Try a request. A failure leaves the connection as it was. -/
def attempt (provider : Provider σ) (connection : Connection) (request : Request)
    (before : σ) : Outcome σ :=
  match connection.perform provider request before with
  | .ok (accepted, next) after => ⟨.ok accepted, next, after⟩
  | .error failure after => ⟨.error failure, connection, after⟩

/-- A request that fails changes nothing. -/
theorem attempt_of_error {provider : Provider σ} {connection : Connection} {request : Request}
    {before : σ} {failure : Error}
    (fails : (connection.attempt provider request before).result = .error failure) :
    (connection.attempt provider request before).connection = connection := by
  unfold attempt at fails ⊢
  cases performed : connection.perform provider request before with
  | ok value after => simp [performed] at fails
  | error failure after => rfl

theorem attempt_of_ok {provider : Provider σ} {connection : Connection} {request : Request}
    {before : σ} {accepted : Option Acceptance}
    (succeeds : (connection.attempt provider request before).result = .ok accepted) :
    ∃ after, connection.perform provider request before =
      .ok (accepted, (connection.attempt provider request before).connection) after := by
  unfold attempt at succeeds ⊢
  cases performed : connection.perform provider request before with
  | ok value after =>
    simp only [performed, Except.ok.injEq] at succeeds
    subst succeeds
    exact ⟨after, rfl⟩
  | error failure after => simp [performed] at succeeds

/-- A run of requests through connections that all satisfy `holds`, and the positions that it
accepts, the oldest first. Each step has a provider of its own. -/
inductive Run (holds : Connection → Prop) (first : Connection) :
    List Acceptance → Connection → Prop
  | start (here : holds first) : Run holds first [] first
  | step {σ : Type} {accepted : List Acceptance} {middle : Connection}
      (run : Run holds first accepted middle) (provider : Provider σ) (request : Request)
      (before : σ) (here : holds (middle.attempt provider request before).connection) :
      Run holds first (accepted ++ (middle.attempt provider request before).accepted)
        (middle.attempt provider request before).connection

/-- The connection is established and its state tracks the key. -/
def TracksKey (key : X25519PublicKey) (connection : Connection) : Prop :=
  ∃ state, connection.phase = .established state ∧ state.Tracks key

end Connection

/-! ### The invariant -/

namespace RatchetState

/-- Cached keys lie behind the receiving chain, and the placed keys of the peer are distinct. -/
structure Sound (state : RatchetState) : Prop where
  cachesBehind : state.CachesBehind
  distinctKeys : (state.placedKeys.map SupersededKey.key).Nodup

/-- If the key is placed, it is so at the generation, and the peer's present key has a chain. -/
def PlacesAt (state : RatchetState) (key : X25519PublicKey) (generation : UInt32) : Prop :=
  (∀ placed ∈ state.placedKeys, placed.key = key → placed.generation = generation) ∧
    (state.remoteKey = some key → state.receivingChain.isSome = true)

variable {state result : RatchetState} {key : X25519PublicKey} {generation : UInt32}

theorem Sound.placesAt (sound : state.Sound) (placed : ⟨key, generation⟩ ∈ state.placedKeys)
    (hasChain : state.remoteKey = some key → state.receivingChain.isSome = true) :
    state.PlacesAt key generation := by
  refine ⟨fun other member same => ?_, hasChain⟩
  have equal : other = ⟨key, generation⟩ :=
    List.inj_on_of_nodup_map sound.distinctKeys member placed same
  rw [equal]

/-- What one step does, with the position that it accepts. -/
structure Advances (state result : RatchetState) (accepted : Option Acceptance) : Prop where
  narrows : Narrows state result
  sound : result.Sound
  /-- An accepted position was obtainable and is not any more, and its key is placed. -/
  spends : ∀ acceptance, accepted = some acceptance →
    state.Obtainable acceptance.slot ∧ ¬ result.Obtainable acceptance.slot ∧
      result.PlacesAt acceptance.ratchetKey acceptance.slot.generation
  /-- A tracked key is not placed anew. -/
  places : ∀ key generation, state.Tracks key → state.PlacesAt key generation →
    result.PlacesAt key generation

/-- A step that leaves the peer's keys and the receiving chain alone accepts nothing. -/
theorem Advances.of_same_keys (sound : state.Sound)
    (placedKeys : result.placedKeys = state.placedKeys)
    (remoteKey : result.remoteKey = state.remoteKey)
    (generationSame : result.receivingGeneration = state.receivingGeneration)
    (position : result.receivingChain.map Chain.index = state.receivingChain.map Chain.index)
    (cache : ∀ slot, result.skipped.contains slot = true → state.skipped.contains slot = true) :
    Advances state result none := by
  have narrows := Narrows.of_not_moved generationSame position cache
  have sameChain : result.receivingChain.isSome = state.receivingChain.isSome := by
    rw [← Option.isSome_map, position, Option.isSome_map]
  refine ⟨narrows, ⟨narrows.cachesBehind sound.cachesBehind, ?_⟩, by simp, ?_⟩
  · rw [placedKeys]
    exact sound.distinctKeys
  · intro key generation _ places
    rw [PlacesAt, placedKeys, remoteKey, sameChain]
    exact places

/-- Recording a position changes nothing else. -/
theorem Advances.recording {accepted : Option Acceptance}
    (advances : Advances state result accepted) (slot : Slot) :
    Advances state (result.recording slot) accepted where
  narrows := ⟨advances.narrows.behind, advances.narrows.cached, advances.narrows.cachesBehind⟩
  sound := ⟨advances.sound.cachesBehind, advances.sound.distinctKeys⟩
  spends := advances.spends
  places := advances.places

end RatchetState

/-! ### One step -/

namespace Connection

variable {σ : Type} {provider : Provider σ} {before after : σ}
variable {limits : RatchetLimits} {state received : RatchetState} {header : MessageHeader}
  {key : FixedBytes 32} {generation : UInt32}

/-- A route leaves the key of the message placed; the other placed keys were so before. -/
theorem Route.placedKeys (route : Route provider limits state header before after key generation
    received) :
    ⟨header.ratchetKey, generation⟩ ∈ received.placedKeys ∧
      (received.remoteKey = some header.ratchetKey → received.receivingChain.isSome = true) ∧
      ((received.placedKeys = state.placedKeys ∧ received.remoteKey = state.remoteKey ∧
          received.receivingChain.isSome = state.receivingChain.isSome) ∨
        received.receivingChain.isSome = true ∧ ¬ state.Tracks header.ratchetKey ∧
          ∃ gone kept, state.placedKeys = gone ++ kept ∧
            received.placedKeys = kept ++ [⟨header.ratchetKey, generation⟩]) := by
  cases route with
  | late placed cached =>
    obtain ⟨notRemote, superseded⟩ := RatchetState.place_eq_previous placed
    exact ⟨List.mem_append_left _ superseded, fun remote => absurd remote notRemote,
      .inl ⟨rfl, rfl, rfl⟩⟩
  | present placed receives =>
    obtain ⟨chain, cache, rfl⟩ := RatchetState.receive_frame receives
    refine ⟨List.mem_append_right _ (by simp), fun _ => rfl, ?_⟩
    rcases placed with current | adopt
    · obtain ⟨remote, hasChain, _⟩ := RatchetState.place_eq_current current
      left
      refine ⟨?_, remote.symm, hasChain.symm⟩
      simp [RatchetState.placedKeys, remote]
    · obtain ⟨noRemote, _, _, unknown⟩ := RatchetState.place_eq_adopt adopt
      right
      refine ⟨rfl, unknown, [], state.supersededKeys, ?_, ?_⟩
      · simp [RatchetState.placedKeys, noRemote]
      · simp [RatchetState.placedKeys]
  | turn placed turns receives =>
    obtain ⟨chain, cache, rfl⟩ := RatchetState.receive_frame receives
    obtain ⟨passed, _, _, _, _, _, skipped, _, _, _, rfl⟩ := RatchetState.receivingTurn_eq_ok turns
    obtain ⟨_, _, rfl⟩ := RatchetState.skipReceivingUntil_frame skipped
    obtain ⟨gone, kept, parts, superseded⟩ := RatchetState.supersede_eq limits _
    rw [superseded]
    refine ⟨List.mem_append_right _ (by simp), fun _ => rfl, .inr ⟨rfl,
      (RatchetState.place_eq_ratchet placed).1, gone, kept, parts, ?_⟩⟩
    simp [RatchetState.placedKeys]

/-- A route narrows what is obtainable and uses up the position of its message. -/
theorem Route.narrows (route : Route provider limits state header before after key generation
    received) :
    RatchetState.Narrows state received ∧
      (state.CachesBehind → state.Obtainable ⟨generation, header.chainIndex⟩ ∧
        ¬ received.Obtainable ⟨generation, header.chainIndex⟩) := by
  cases route with
  | late placed cached =>
    have held : state.skipped.contains ⟨generation, header.chainIndex⟩ = true :=
      SkippedKeys.contains_iff.2 ⟨key, cached⟩
    refine ⟨.of_not_moved rfl rfl (fun slot stillHeld => ?_), fun caches => ⟨.inl held, ?_⟩⟩
    · obtain ⟨found, look⟩ := SkippedKeys.contains_iff.1 stillHeld
      exact SkippedKeys.contains_iff.2 ⟨found, SkippedKeys.get?_of_get?_erase look⟩
    · exact RatchetState.not_obtainable_iff.2
        ⟨SkippedKeys.contains_erase_self _ _, caches _ held⟩
  | present placed receives =>
    obtain ⟨narrows, spends⟩ := RatchetState.receive_narrows receives
    have learnt : RatchetState.Narrows state
        { state with remoteKey := some header.ratchetKey } :=
      .of_not_moved rfl rfl (fun _ held => held)
    refine ⟨learnt.trans narrows, fun caches => ?_⟩
    obtain ⟨obtainable, spent⟩ := spends (learnt.cachesBehind caches)
    exact ⟨learnt.obtainable obtainable, spent⟩
  | turn placed turns receives =>
    obtain ⟨narrows, spends⟩ := RatchetState.receive_narrows receives
    have turned := RatchetState.receivingTurn_narrows turns
    obtain ⟨chain, cache, rfl⟩ := RatchetState.receive_frame receives
    refine ⟨turned.trans narrows, fun caches => ?_⟩
    obtain ⟨obtainable, spent⟩ := spends (turned.cachesBehind caches)
    exact ⟨turned.obtainable obtainable, spent⟩

theorem Route.advances (route : Route provider limits state header before after key generation
    received) (sound : state.Sound) :
    RatchetState.Advances state received
      (some ⟨header.ratchetKey, ⟨generation, header.chainIndex⟩⟩) := by
  obtain ⟨narrows, spends⟩ := route.narrows
  obtain ⟨obtainable, spent⟩ := spends sound.cachesBehind
  obtain ⟨placed, hasChain, keys⟩ := route.placedKeys
  have distinct : (received.placedKeys.map SupersededKey.key).Nodup := by
    rcases keys with ⟨same, _⟩ | ⟨_, unknown, gone, kept, parts, others⟩
    · rw [same]
      exact sound.distinctKeys
    · have distinctKept := sound.distinctKeys
      rw [parts, List.map_append] at distinctKept
      rw [others, List.map_append, List.nodup_append]
      refine ⟨distinctKept.of_append_right, by simp, ?_⟩
      intro first member second new
      obtain ⟨superseded, kept, rfl⟩ := List.mem_map.1 member
      simp only [List.map_cons, List.map_nil, List.mem_singleton] at new
      rintro same
      rw [new] at same
      apply unknown
      rw [← same]
      exact RatchetState.tracks_of_mem_placedKeys (parts ▸ List.mem_append_right _ kept)
  have receivedSound : received.Sound := ⟨narrows.cachesBehind sound.cachesBehind, distinct⟩
  refine ⟨narrows, receivedSound, ?_, ?_⟩
  · rintro acceptance same
    cases same
    exact ⟨obtainable, spent, receivedSound.placesAt placed hasChain⟩
  · intro other place known places
    rcases keys with ⟨same, remote, chain⟩ | ⟨hasChain, unknown, gone, kept, parts, others⟩
    · rw [RatchetState.PlacesAt, same, remote, chain]
      exact places
    · refine ⟨fun found member sameKey => ?_, fun _ => hasChain⟩
      rw [others, List.mem_append, List.mem_singleton] at member
      rcases member with earlier | rfl
      · exact places.1 found (parts ▸ List.mem_append_right _ earlier) sameKey
      · cases sameKey
        exact absurd known unknown

/-- What a request that succeeds does to a state: the position that it accepts, the limits from
then on, and the next state. -/
inductive Performs (provider : Provider σ) (connection : Connection) (state : RatchetState) :
    Request → Option Acceptance → RatchetLimits → RatchetState → Prop
  | sent {plaintext associatedData : Bytes} {before middle after : σ} {source : RatchetState}
      {chain moved : Chain} {messageKey : MessageKey}
      (sends : SendsFrom provider connection.limits state before middle source)
      (isChain : source.sendingChain = some chain)
      (advanced : chain.advance provider middle = .ok (messageKey, moved) after) :
      Performs provider connection state (.encrypt plaintext associatedData) none connection.limits
        { source with sendingChain := some moved }
  | forced : Performs provider connection state .forceRatchet none connection.limits
      { state with sendingRatchetPending := true }
  | read {message : RatchetMessage} {associatedData : Bytes} {before after : σ}
      {key : FixedBytes 32} {generation : UInt32} {received : RatchetState}
      (route : Route provider connection.limits state message.header before after key generation
        received) :
      Performs provider connection state (.decrypt message associatedData)
        (some ⟨message.header.ratchetKey, ⟨generation, message.header.chainIndex⟩⟩)
        connection.limits (received.recording ⟨generation, message.header.chainIndex⟩)
  | restored {limits : RatchetLimits} {before after : σ} {restored : RatchetState}
      (reads : RatchetState.ofRecord provider limits (state.toRecord connection.connectionId)
        before = .ok restored after) :
      Performs provider connection state (.restore limits) none limits restored

theorem performs_of_perform {connection next : Connection} {request : Request}
    {accepted : Option Acceptance}
    (performed : connection.perform provider request before = .ok (accepted, next) after) :
    ∃ state limits result, connection.phase = .established state ∧
      next = ⟨connection.connectionId, limits, .established result⟩ ∧
      Performs provider connection state request accepted limits result := by
  cases request with
  | encrypt plaintext associatedData =>
    simp only [perform, Crypto.bind_eq_ok, Crypto.pure_eq_ok, Prod.exists,
      Prod.mk.injEq] at performed
    obtain ⟨_, _, _, encrypted, ⟨rfl, rfl⟩, _⟩ := performed
    obtain ⟨staged, encrypts, rfl⟩ := encryptNext_eq_ok encrypted
    obtain ⟨state, _, _, _, _, _, _, isState, sends, isChain, advanced, _, _, _, resulting⟩ :=
      stageEncrypt_eq_ok encrypts
    refine ⟨state, _, _, isState, ?_, .sent sends isChain advanced⟩
    rw [commit_of_established isState, resulting]
  | forceRatchet =>
    simp only [perform, Crypto.bind_eq_ok, Crypto.ofExcept_eq_ok, Crypto.pure_eq_ok,
      Prod.mk.injEq] at performed
    obtain ⟨_, _, ⟨forced, _⟩, ⟨rfl, rfl⟩, _⟩ := performed
    obtain ⟨state, isState⟩ := established_of_forceRatchet forced
    exact ⟨state, _, _, isState, forceRatchet_eq_ok isState forced, .forced⟩
  | decrypt message associatedData =>
    simp only [perform, Crypto.bind_eq_ok, Crypto.pure_eq_ok, Prod.exists,
      Prod.mk.injEq] at performed
    obtain ⟨_, staged, _, decrypted, ⟨rfl, rfl⟩, _⟩ := performed
    obtain ⟨state, _, _, _, _, isState, _, route, _, slot, resulting⟩ :=
      stageDecrypt_eq_ok decrypted
    rw [slot, Option.map_some]
    refine ⟨state, _, _, isState, ?_, .read route⟩
    rw [commit_of_established isState, resulting]
  | restore limits =>
    simp only [perform, Crypto.bind_eq_ok, Crypto.ofExcept_eq_ok, Crypto.pure_eq_ok,
      Prod.mk.injEq] at performed
    obtain ⟨_, _, ⟨exported, _⟩, _, _, read, ⟨rfl, rfl⟩, _⟩ := performed
    obtain ⟨state, isState, rfl⟩ := exportRecord_eq_ok.1 exported
    simp only [ofRecord, Crypto.bind_eq_ok, Crypto.pure_eq_ok] at read
    obtain ⟨_, _, reads, rfl, _⟩ := read
    exact ⟨state, limits, _, isState, rfl, .restored reads⟩

/-- A request changes nothing, or it is performed. -/
theorem attempt_cases {connection : Connection} (isState : connection.phase = .established state)
    (provider : Provider σ) (request : Request) (before : σ) :
    (connection.attempt provider request before).connection = connection ∧
        (connection.attempt provider request before).accepted = [] ∨
      ∃ accepted limits result,
        (connection.attempt provider request before).connection =
          ⟨connection.connectionId, limits, .established result⟩ ∧
        (connection.attempt provider request before).accepted = accepted.toList ∧
        Performs provider connection state request accepted limits result := by
  unfold attempt
  cases performed : connection.perform provider request before with
  | ok value after =>
    obtain ⟨accepted, next⟩ := value
    obtain ⟨_, limits, result, same, isNext, performs⟩ := performs_of_perform performed
    cases isState.symm.trans same
    refine .inr ⟨accepted, limits, result, isNext, ?_, performs⟩
    cases accepted <;> rfl
  | error failure after => exact .inl ⟨rfl, rfl⟩

theorem Performs.advances {connection : Connection} {request : Request}
    {accepted : Option Acceptance} {result : RatchetState}
    (performs : Performs provider connection state request accepted limits result)
    (sound : state.Sound) : RatchetState.Advances state result accepted := by
  cases performs with
  | sent sends isChain advanced =>
    cases sends with
    | same notDue => exact .of_same_keys sound rfl rfl rfl rfl (fun _ held => held)
    | turned due turns =>
      obtain ⟨_, _, _, _, _, _, _, _, _, _, _, rfl⟩ := RatchetState.sendingTurn_eq_ok turns
      exact .of_same_keys sound rfl rfl rfl rfl (fun _ held => held)
  | forced => exact .of_same_keys sound rfl rfl rfl rfl (fun _ held => held)
  | read route => exact (route.advances sound).recording _
  | restored reads =>
    obtain ⟨remoteKey, generation, superseded, chain, cache⟩ :=
      RatchetState.ofRecord_toRecord_eq_ok reads
    refine .of_same_keys sound ?_ remoteKey generation ?_ (fun slot held => ?_)
    · rw [RatchetState.placedKeys, remoteKey, generation, superseded]
      rfl
    · rw [chain, Option.map_map]
      rfl
    · obtain ⟨key, look⟩ := SkippedKeys.contains_iff.1 held
      exact SkippedKeys.contains_iff.2 ⟨key, cache slot key look⟩

/-- One request that succeeds advances the state. -/
theorem perform_advances {connection next : Connection} {request : Request}
    {accepted : Option Acceptance} (isState : connection.phase = .established state)
    (sound : state.Sound)
    (performed : connection.perform provider request before = .ok (accepted, next) after) :
    ∃ result, next.phase = .established result ∧ RatchetState.Advances state result accepted := by
  obtain ⟨_, _, result, same, rfl, performs⟩ := performs_of_perform performed
  cases isState.symm.trans same
  exact ⟨result, rfl, performs.advances sound⟩

/-- Decrypting accepts the position that the message names, and tracks its ratchet key. -/
theorem accepted_of_decrypt {connection next : Connection} {message : RatchetMessage}
    {associatedData : Bytes} {accepted : Option Acceptance}
    (performed : connection.perform provider (.decrypt message associatedData) before =
      .ok (accepted, next) after) :
    TracksKey message.header.ratchetKey next ∧
      ∃ generation, accepted =
        some ⟨message.header.ratchetKey, ⟨generation, message.header.chainIndex⟩⟩ := by
  obtain ⟨_, _, _, _, rfl, performs⟩ := performs_of_perform performed
  cases performs with
  | @read _ _ _ _ _ generation received route =>
    have tracked : received.Tracks message.header.ratchetKey :=
      RatchetState.tracks_of_mem_placedKeys route.placedKeys.1
    exact ⟨⟨_, rfl, tracked⟩, generation, rfl⟩

/-- One request, also one that fails, advances the state. -/
theorem attempt_advances {connection : Connection} (isState : connection.phase = .established state)
    (sound : state.Sound) (provider : Provider σ) (request : Request) (before : σ) :
    ∃ result accepted,
      (connection.attempt provider request before).connection.phase = .established result ∧
      (connection.attempt provider request before).accepted = accepted.toList ∧
      RatchetState.Advances state result accepted := by
  rcases attempt_cases isState provider request before with
    ⟨same, accepts⟩ | ⟨accepted, _, result, isNext, accepts, performs⟩
  · rw [same, accepts]
    exact ⟨state, none, isState, rfl, .of_same_keys sound rfl rfl rfl rfl (fun _ held => held)⟩
  · rw [isNext, accepts]
    exact ⟨result, accepted, rfl, rfl, performs.advances sound⟩

/-- A position that cannot be obtained has no key, whatever its chain. -/
theorem receivingKey_of_spent (tracked : state.Tracks header.ratchetKey)
    (places : state.PlacesAt header.ratchetKey generation)
    (spent : ¬ state.Obtainable ⟨generation, header.chainIndex⟩)
    (provider : Provider σ) (limits : RatchetLimits) (before : σ) :
    receivingKey provider limits state header before = .error .replayDetected before := by
  obtain ⟨notCached, behind⟩ := RatchetState.not_obtainable_iff.1 spent
  rw [SkippedKeys.contains_eq_false_iff] at notCached
  by_cases remote : state.remoteKey = some header.ratchetKey
  · have sameGeneration : state.receivingGeneration = generation := by
      refine places.1 ⟨header.ratchetKey, state.receivingGeneration⟩ ?_ rfl
      simp [RatchetState.placedKeys, remote]
    obtain ⟨chain, isChain⟩ := Option.isSome_iff_exists.1 (places.2 remote)
    have placed : state.place header.ratchetKey = .current state.receivingGeneration := by
      rw [RatchetState.place_of_remote remote, isChain]
      rfl
    have below : header.chainIndex < chain.index := by
      rcases (RatchetState.behind_iff isChain).1 behind with older | ⟨_, below⟩
      · exact absurd (sameGeneration ▸ older) (UInt32.lt_irrefl _)
      · exact below
    simp only [receivingKey, placed]
    refine Crypto.bind_of_error ?_ _
    simp only [RatchetState.stageReceive, isChain, if_pos below, sameGeneration, notCached]
    rfl
  · rcases RatchetState.place_of_tracks tracked remote with
      ⟨superseded, member, sameKey, placed⟩ | placed
    · have sameGeneration : superseded.generation = generation :=
        places.1 superseded (List.mem_append_left _ member) sameKey
      simp only [receivingKey, placed, sameGeneration, notCached]
      rfl
    · simp only [receivingKey, placed]
      rfl

/-- A message of a tracked key whose position cannot be obtained is refused, before any primitive
is called. -/
theorem attempt_of_spent {connection : Connection} {message : RatchetMessage}
    (isState : connection.phase = .established state)
    (tracked : state.Tracks message.header.ratchetKey)
    (places : state.PlacesAt message.header.ratchetKey generation)
    (spent : ¬ state.Obtainable ⟨generation, message.header.chainIndex⟩)
    (provider : Provider σ) (associatedData : Bytes) (before : σ) :
    connection.attempt provider (.decrypt message associatedData) before =
      ⟨.error .replayDetected, connection, before⟩ := by
  have refused : connection.stageDecrypt provider message associatedData before =
      .error .replayDetected before := by
    unfold stageDecrypt
    rw [Crypto.bind_of_ok (ofExcept_state_eq_ok.2 ⟨isState, rfl⟩)]
    cases isReplayed state message.header with
    | true => rfl
    | false => exact Crypto.bind_of_error (receivingKey_of_spent tracked places spent _ _ _) _
  have failed : connection.perform provider (.decrypt message associatedData) before =
      .error .replayDetected before := Crypto.bind_of_error refused _
  simp only [attempt, failed]

/-! ### Runs -/

section Runs

variable {holds : Connection → Prop} {first last : Connection} {accepted : List Acceptance}
  {start : RatchetState}

theorem Run.holds_last (run : Run holds first accepted last) : holds last := by
  cases run with
  | start here => exact here
  | step _ _ _ _ here => exact here

/-- Along a run the obtainable positions only become fewer, and what was accepted is not among
them. -/
theorem Run.history (run : Run holds first accepted last)
    (isStart : first.phase = .established start) (sound : start.Sound) :
    ∃ state, last.phase = .established state ∧ state.Sound ∧
      (∀ slot, state.Obtainable slot → start.Obtainable slot) ∧
      (∀ acceptance ∈ accepted, ¬ state.Obtainable acceptance.slot) ∧
      (accepted.map Acceptance.slot).Nodup := by
  induction run with
  | start here => exact ⟨start, isStart, sound, fun _ still => still, by simp, by simp⟩
  | step run provider request before here inductionHypothesis =>
    obtain ⟨state, isState, soundState, shrinks, spent, distinct⟩ := inductionHypothesis
    obtain ⟨result, new, isResult, accepts, advances⟩ :=
      attempt_advances isState soundState provider request before
    refine ⟨result, isResult, advances.sound,
      fun slot still => shrinks slot (advances.narrows.obtainable still), ?_, ?_⟩
    · intro acceptance member still
      rw [accepts, List.mem_append, Option.mem_toList] at member
      rcases member with earlier | isNew
      · exact spent acceptance earlier (advances.narrows.obtainable still)
      · exact (advances.spends acceptance isNew).2.1 still
    · rw [accepts, List.map_append, List.nodup_append]
      refine ⟨distinct, ?_, ?_⟩
      · cases new <;> simp
      · intro slot earlier other isNew same
        obtain ⟨acceptance, member, rfl⟩ := List.mem_map.1 earlier
        obtain ⟨latest, isLatest, rfl⟩ := List.mem_map.1 isNew
        have obtainable := (advances.spends latest (Option.mem_toList.1 isLatest)).1
        exact spent acceptance member (same ▸ obtainable)

/-- A key that is tracked along a run keeps its generation. -/
theorem Run.placesAt {key : X25519PublicKey} (run : Run (TracksKey key) first accepted last)
    (isStart : first.phase = .established start) (sound : start.Sound)
    {generation : UInt32} (places : start.PlacesAt key generation) :
    ∃ state, last.phase = .established state ∧ state.PlacesAt key generation := by
  induction run with
  | start here => exact ⟨start, isStart, places⟩
  | step run provider request before here inductionHypothesis =>
    obtain ⟨state, isState, placesState⟩ := inductionHypothesis
    obtain ⟨_, same, soundState, _⟩ := run.history isStart sound
    cases isState.symm.trans same
    obtain ⟨_, tracked, tracks⟩ := run.holds_last
    cases isState.symm.trans tracked
    obtain ⟨result, _, isResult, _, advances⟩ :=
      attempt_advances isState soundState provider request before
    exact ⟨result, isResult, advances.places key generation tracks placesState⟩

end Runs

theorem sound_initial (limits : RatchetLimits) (seed : SessionSeed) (rootKey : FixedBytes 32)
    (keyPair : X25519KeyPair) (sendingChain receivingChain : Option Chain) :
    (RatchetState.initial limits seed rootKey keyPair sendingChain receivingChain).Sound := by
  refine ⟨fun slot held => ?_, ?_⟩
  · cases held
  · unfold RatchetState.placedKeys RatchetState.initial
    cases seed.remoteRatchetKey <;> simp

theorem establish_sound {seed : SessionSeed} {fresh connection : Connection}
    (established : fresh.establish provider seed before = .ok connection after) :
    ∃ state, connection.phase = .established state ∧ state.Sound := by
  obtain ⟨state, seeded, rfl⟩ := establish_eq_ok established
  refine ⟨state, rfl, ?_⟩
  obtain ⟨_, _, _, _, ⟨_, _, _, _, rfl⟩ | ⟨_, _, _, _, rfl⟩⟩ := RatchetState.ofSeed_eq_ok seeded
  · exact sound_initial _ _ _ _ _ _
  · exact sound_initial _ _ _ _ _ _

/-- Along every run of an established connection, no position is accepted twice. After a message
was accepted, a message of the same ratchet key and index is refused as replayed, and nothing
changes, for as long as the ratchet key is tracked. -/
theorem accepts_at_most_once {seed : SessionSeed} {fresh first : Connection}
    (established : fresh.establish provider seed before = .ok first after) :
    (∀ accepted last, Run (fun _ => True) first accepted last →
      (accepted.map Acceptance.slot).Nodup) ∧
    ∀ earlier reached, Run (fun _ => True) first earlier reached →
      ∀ {τ : Type} (acceptor : Provider τ) (start : τ) (original : RatchetMessage)
        (context : Bytes) (acceptance : Option Acceptance),
        (reached.attempt acceptor (.decrypt original context) start).result = .ok acceptance →
      ∀ later last, Run (TracksKey original.header.ratchetKey)
          (reached.attempt acceptor (.decrypt original context) start).connection later last →
      ∀ {υ : Type} (replayer : Provider υ) (now : υ) (repeated : RatchetMessage)
        (associatedData : Bytes), repeated.header.ratchetKey = original.header.ratchetKey →
        repeated.header.chainIndex = original.header.chainIndex →
        last.attempt replayer (.decrypt repeated associatedData) now =
          ⟨.error .replayDetected, last, now⟩ := by
  obtain ⟨start, isStart, sound⟩ := establish_sound established
  refine ⟨fun accepted last run => ?_, ?_⟩
  · obtain ⟨_, _, _, _, _, distinct⟩ := run.history isStart sound
    exact distinct
  · intro earlier reached run τ acceptor begins original context acceptance accepts later last
      tracking υ replayer now repeated associatedData sameKey sameIndex
    obtain ⟨state, isState, soundState, _⟩ := run.history isStart sound
    obtain ⟨_, performed⟩ := attempt_of_ok accepts
    obtain ⟨_, generation, isAccepted⟩ := accepted_of_decrypt performed
    obtain ⟨result, isResult, advances⟩ := perform_advances isState soundState performed
    obtain ⟨_, spent, places⟩ := advances.spends _ isAccepted
    obtain ⟨final, isFinal, _, shrinks, _⟩ := tracking.history isResult advances.sound
    obtain ⟨_, placed, placesFinal⟩ := tracking.placesAt isResult advances.sound places
    obtain ⟨_, tracked, tracks⟩ := tracking.holds_last
    cases isFinal.symm.trans placed
    cases isFinal.symm.trans tracked
    rw [← sameKey] at tracks placesFinal
    refine attempt_of_spent isFinal tracks placesFinal (fun still => spent ?_) _ _ _
    rw [← sameIndex]
    exact shrinks _ still

/-- A message that is accepted is refused when it comes again at once. -/
theorem accepts_at_most_once_sample :
    ∃ (first : Connection) (message : RatchetMessage),
      (∃ after, (new 2 (.sample 100)).establish .transparent .samplePeer 0 = .ok first after) ∧
      (first.attempt .transparent (.decrypt message [3]) 0).result =
        .ok (some ⟨⟨.replicate 32 0⟩, ⟨0, 0⟩⟩) ∧
      ((first.attempt .transparent (.decrypt message [3]) 0).connection.attempt .transparent
        (.decrypt message [3]) 0).result = .error .replayDetected ∧
      ∀ accepted last, Run (fun _ => True) first accepted last →
        (accepted.map Acceptance.slot).Nodup := by
  obtain ⟨first, _, message, _, _, _, established, _, _, accepts⟩ :
      ∃ (first sender : Connection) (message : RatchetMessage) (moved : Connection)
        (begun ready : Nat),
        (new 2 (.sample 100)).establish .transparent .samplePeer 0 = .ok first begun ∧
        (new 1 (.sample 100)).establish .transparent .sample 0 = .ok sender ready ∧
        (∃ after, sender.encryptNext .transparent [1, 2] [3] ready = .ok (message, moved) after) ∧
        (first.attempt .transparent (.decrypt message [3]) 0).result =
          .ok (some ⟨⟨.replicate 32 0⟩, ⟨0, 0⟩⟩) :=
    ⟨_, _, _, _, _, _, rfl, rfl, ⟨_, rfl⟩, by decide +kernel⟩
  obtain ⟨atMostOnce, refuses⟩ := accepts_at_most_once established
  refine ⟨first, message, ⟨_, established⟩, accepts, ?_, atMostOnce⟩
  obtain ⟨_, performed⟩ := attempt_of_ok accepts
  rw [refuses [] first (.start trivial) .transparent 0 message [3] _ accepts [] _
    (.start (accepted_of_decrypt performed).1) .transparent 0 message [3] rfl rfl]

end Connection

end RatchetMessaging
