import RatchetMessaging.Connection.Exchange
import RatchetMessaging.Proofs.Ratchet.Reception

/-!
Contract: the arithmetic of positions in the decryption of a message.

Owns:
- differences and successors of thirty-two-bit numbers as those of natural numbers, which end the
  computation with a failure of the caller's choice where the result is no thirty-two-bit number;
- decryption with this arithmetic in the place of the wrapping one;
- the two decrypt alike from every state, whatever a result out of range would lead to.

Does not own: the floor of the replay window, whose last step saturates.
-/

namespace RatchetMessaging

variable {σ : Type} (overflow : Error)

/-! ### Numbers -/

/-- The difference of two numbers, if it is not negative. -/
def exactSub (left right : UInt32) : Except Error UInt32 :=
  if right.toNat ≤ left.toNat then .ok (.ofNat (left.toNat - right.toNat)) else .error overflow

/-- The successor of a number, unless it is the last. -/
def exactSucc (number : UInt32) : Except Error UInt32 :=
  if number.toNat + 1 < UInt32.size then .ok (.ofNat (number.toNat + 1)) else .error overflow

theorem exactSub_of_le {left right : UInt32} (ordered : right ≤ left) :
    exactSub overflow left right = .ok (left - right) := by
  have within : right.toNat ≤ left.toNat := UInt32.le_iff_toNat_le.1 ordered
  unfold exactSub
  rw [if_pos within, ← UInt32.toNat_sub_of_le left right ordered, UInt32.ofNat_toNat]

theorem exactSucc_of_ne_last {number : UInt32} (notLast : number ≠ 0xFFFFFFFF) :
    exactSucc overflow number = .ok (number + 1) := by
  have successor := toNat_succ_of_ne_last notLast
  have within : number.toNat + 1 < UInt32.size := successor ▸ (number + 1).toNat_lt
  unfold exactSucc
  rw [if_pos within, ← successor, UInt32.ofNat_toNat]

/-! ### Chains -/

namespace Chain

variable (provider : Provider σ)

/-- The advance of a chain. -/
def exactAdvance (chain : Chain) : Crypto σ (MessageKey × Chain) := do
  if chain.index = 0xFFFFFFFF then
    throw (.deriveKey "chain index exhausted")
  let messageKey ← provider.hmac chain.key.toBytes messageLabel
  let nextKey ← provider.hmac chain.key.toBytes chainLabel
  let next ← Crypto.ofExcept (exactSucc overflow chain.index)
  return (⟨chain.index, messageKey⟩, { chain with key := nextKey, index := next })

/-- The advance over `count` positions. -/
def exactAdvanceBy : (count : Nat) → Chain → Crypto σ (List MessageKey × Chain)
  | 0, chain => pure ([], chain)
  | count + 1, chain => do
    let (messageKey, chain) ← chain.exactAdvance overflow provider
    let (messageKeys, chain) ← exactAdvanceBy count chain
    return (messageKey :: messageKeys, chain)

/-- The advance over `count` positions whose keys are cached. -/
def exactCacheNext (generation : UInt32) :
    (count : Nat) → Chain → SkippedKeys (FixedBytes 32) →
      Crypto σ (Chain × SkippedKeys (FixedBytes 32))
  | 0, chain, skipped => pure (chain, skipped)
  | count + 1, chain, skipped => do
    let (messageKey, chain) ← chain.exactAdvance overflow provider
    exactCacheNext generation count chain
      (skipped.insert ⟨generation, messageKey.index⟩ messageKey.key)

theorem exactAdvance_eq (chain : Chain) :
    chain.exactAdvance overflow provider = chain.advance provider := by
  unfold exactAdvance advance
  by_cases last : chain.index = 0xFFFFFFFF
  · simp only [if_pos last]
    rfl
  · simp only [if_neg last, exactSucc_of_ne_last overflow last, Crypto.ofExcept, pure_bind]

theorem exactAdvanceBy_eq (count : Nat) (chain : Chain) :
    chain.exactAdvanceBy overflow provider count = chain.advanceBy provider count := by
  induction count generalizing chain with
  | zero => rfl
  | succ count inductionHypothesis =>
    simp only [exactAdvanceBy, advanceBy, exactAdvance_eq, inductionHypothesis]

theorem exactCacheNext_eq (generation : UInt32) (count : Nat) (chain : Chain)
    (skipped : SkippedKeys (FixedBytes 32)) :
    chain.exactCacheNext overflow provider generation count skipped =
      chain.cacheNext provider generation count skipped := by
  induction count generalizing chain skipped with
  | zero => rfl
  | succ count inductionHypothesis =>
    simp only [exactCacheNext, cacheNext, exactAdvance_eq, inductionHypothesis]

end Chain

/-! ### Reception -/

namespace RatchetState

variable (provider : Provider σ) (limits : RatchetLimits)

/-- Passing over the rest of the present chain. -/
def exactSkipReceivingUntil (limit : UInt32) (state : RatchetState) : Crypto σ RatchetState :=
  match state.receivingChain with
  | none => pure state
  | some chain =>
    if limit ≤ chain.index then pure state
    else do
      let gap ← Crypto.ofExcept (exactSub overflow limit chain.index)
      Crypto.ofExcept (checkGap limits gap)
      let (chain, skipped) ← chain.exactCacheNext overflow provider state.receivingGeneration
        gap.toNat state.skipped
      return { state with receivingChain := some chain, skipped := skipped }

/-- Reception in place. -/
def exactReceive (index : UInt32) (state : RatchetState) :
    Crypto σ (FixedBytes 32 × RatchetState) := do
  match state.receivingChain with
  | none => throw (.prepareLocal "no receiving chain")
  | some chain =>
    if index < chain.index then
      match state.skipped.take ⟨state.receivingGeneration, index⟩ with
      | none => throw .replayDetected
      | some (key, skipped) => return (key, { state with skipped := skipped })
    else
      let state ← state.exactSkipReceivingUntil overflow provider limits index
      match state.receivingChain with
      | none => throw (.prepareLocal "no receiving chain")
      | some chain =>
        let (messageKey, chain) ← chain.exactAdvance overflow provider
        return (messageKey.key, { state with receivingChain := some chain })

/-- Staged reception. -/
def exactStageReceive (index : UInt32) (state : RatchetState) :
    Crypto σ (FixedBytes 32 × Reception) := do
  let generation := state.receivingGeneration
  match state.receivingChain with
  | none => throw (.prepareLocal "no receiving chain")
  | some chain =>
    if index < chain.index then
      match state.skipped.get? ⟨generation, index⟩ with
      | none => throw .replayDetected
      | some key =>
        return (key, { generation := generation, index := index, fromCache := true })
    else
      let gap ← Crypto.ofExcept (exactSub overflow index chain.index)
      Crypto.ofExcept (checkGap limits gap)
      let (passedOver, chain) ← chain.exactAdvanceBy overflow provider gap.toNat
      let (messageKey, chain) ← chain.exactAdvance overflow provider
      return (messageKey.key,
        { generation := generation
          index := index
          chain := some chain
          passedOver := passedOver })

/-- The turn of the receiver. -/
def exactReceivingTurn (header : MessageHeader) (state : RatchetState) :
    Crypto σ RatchetState := do
  let state ← state.exactSkipReceivingUntil overflow provider limits header.previousChainLength
  if state.receivingGeneration = 0xFFFFFFFF then
    throw (.deriveKey "receiving generations exhausted")
  let generation ← Crypto.ofExcept (exactSucc overflow state.receivingGeneration)
  let shared ← state.keyPair.shared provider header.ratchetKey
  let (rootKey, chainKey) ← stepRoot provider state.rootKey shared
  return { state.supersede limits with
    rootKey := rootKey
    receivingChain := some ⟨.receiving, chainKey, 0⟩
    receivingGeneration := generation
    remoteKey := some header.ratchetKey
    sendingRatchetPending := true
    ratchetSteps := state.ratchetSteps + 1 }

theorem exactSkipReceivingUntil_eq (limit : UInt32) (state : RatchetState) :
    state.exactSkipReceivingUntil overflow provider limits limit =
      state.skipReceivingUntil provider limits limit := by
  unfold exactSkipReceivingUntil skipReceivingUntil
  cases state.receivingChain with
  | none => rfl
  | some chain =>
    by_cases reached : limit ≤ chain.index
    · simp only [if_pos reached]
    · have ahead : chain.index ≤ limit := UInt32.le_of_lt (UInt32.not_le.1 reached)
      simp only [if_neg reached, exactSub_of_le overflow ahead, Chain.exactCacheNext_eq]
      rfl

theorem exactReceive_eq (index : UInt32) (state : RatchetState) :
    state.exactReceive overflow provider limits index = state.receive provider limits index := by
  simp only [exactReceive, exactSkipReceivingUntil_eq, Chain.exactAdvance_eq]
  rfl

theorem exactStageReceive_eq (index : UInt32) (state : RatchetState) :
    state.exactStageReceive overflow provider limits index =
      state.stageReceive provider limits index := by
  unfold exactStageReceive stageReceive
  cases state.receivingChain with
  | none => rfl
  | some chain =>
    by_cases behind : index < chain.index
    · exact (if_pos behind).trans (if_pos behind).symm
    · have ahead : chain.index ≤ index := UInt32.not_lt.1 behind
      simp only [if_neg behind, exactSub_of_le overflow ahead, Chain.exactAdvanceBy_eq,
        Chain.exactAdvance_eq]
      rfl

theorem exactReceivingTurn_eq (header : MessageHeader) (state : RatchetState) :
    state.exactReceivingTurn overflow provider limits header =
      state.receivingTurn provider limits header := by
  unfold exactReceivingTurn receivingTurn
  rw [exactSkipReceivingUntil_eq]
  refine congrArg _ (funext fun passed => ?_)
  by_cases last : passed.receivingGeneration = 0xFFFFFFFF
  · simp only [if_pos last]
    rfl
  · simp only [if_neg last, exactSucc_of_ne_last overflow last, Crypto.ofExcept, pure_bind]

end RatchetState

/-! ### The memory of accepted positions -/

namespace GenerationWindow

/-- Whether a position lies `window` or more below the highest accepted one. -/
def exactIsBelow (entry : GenerationWindow) (window index : UInt32) : Except Error Bool :=
  if index < entry.highest then do
    let depth ← exactSub overflow entry.highest index
    return window ≤ depth
  else .ok false

/-- The positions of a list that fall off the window. -/
def exactFallen (entry : GenerationWindow) (window : UInt32) :
    List UInt32 → Except Error (List UInt32)
  | [] => .ok []
  | index :: later => do
    let isBelow ← entry.exactIsBelow overflow window index
    let fallen ← exactFallen entry window later
    return if isBelow then index :: fallen else fallen

/-- Record a position and forget those that fall off the window. -/
def exactRecord (entry : GenerationWindow) (window index : UInt32) :
    Except Error GenerationWindow := do
  let highest :=
    if entry.seen.size = 0 ∨ entry.highest < index then index else entry.highest
  let recorded : GenerationWindow := ⟨highest, entry.seen.insert index ()⟩
  let fallen ← recorded.exactFallen overflow window recorded.seen.keys
  return { recorded with seen := recorded.seen.filter (fun seen _ => !fallen.contains seen) }

theorem exactIsBelow_eq (entry : GenerationWindow) (window index : UInt32) :
    entry.exactIsBelow overflow window index = .ok (entry.isBelow window index) := by
  unfold exactIsBelow isBelow
  by_cases below : index < entry.highest
  · rw [if_pos below, exactSub_of_le overflow (UInt32.le_of_lt below)]
    simp [below, bind, Except.bind, pure, Except.pure]
  · simp [below]

theorem exactFallen_eq (entry : GenerationWindow) (window : UInt32) (indices : List UInt32) :
    entry.exactFallen overflow window indices = .ok (indices.filter (entry.isBelow window)) := by
  induction indices with
  | nil => rfl
  | cons index later inductionHypothesis =>
    rw [exactFallen, exactIsBelow_eq, inductionHypothesis, List.filter_cons]
    rfl

/-- Of a set of positions the same ones stay, whether those that go are listed first or not. -/
theorem filter_not_contains_filter (seen : NumberMap Unit) (goes : UInt32 → Bool) :
    seen.filter (fun index _ => !(seen.keys.filter goes).contains index) =
      seen.filter (fun index _ => !goes index) := by
  refine OrderedMap.ext (List.filter_congr fun entry member => ?_)
  have isKey : entry.1 ∈ seen.keys := List.mem_map_of_mem member
  simp [isKey]

theorem exactRecord_eq (entry : GenerationWindow) (window index : UInt32) :
    entry.exactRecord overflow window index = .ok (entry.record window index) := by
  unfold exactRecord record
  simp only [exactFallen_eq]
  exact congrArg Except.ok (congrArg (GenerationWindow.mk _) (filter_not_contains_filter _ _))

end GenerationWindow

namespace ReplayWindow

/-- Whether a position would be refused. -/
def exactIsReplay (replay : ReplayWindow) (generation index : UInt32) : Except Error Bool :=
  if generation < replay.generationFloor then .ok true
  else
    match replay.generations.find? generation with
    | some entry => do
      let isBelow ← entry.exactIsBelow overflow replay.window index
      return isBelow || entry.seen.contains index
    | none => .ok false

/-- Record a position unless it is refused. -/
def exactAccept (replay : ReplayWindow) (generation index : UInt32) :
    Except Error (Bool × ReplayWindow) := do
  if ← replay.exactIsReplay overflow generation index then return (false, replay)
  let entry := (replay.generations.find? generation).getD {}
  let recorded ← entry.exactRecord overflow replay.window index
  return (true, trim { replay with generations := replay.generations.insert generation recorded })

theorem exactIsReplay_eq (replay : ReplayWindow) (generation index : UInt32) :
    replay.exactIsReplay overflow generation index = .ok (replay.isReplay generation index) := by
  unfold exactIsReplay isReplay
  by_cases below : generation < replay.generationFloor
  · rw [if_pos below, if_pos below]
  · rw [if_neg below, if_neg below]
    cases replay.generations.find? generation with
    | none => rfl
    | some entry =>
      simp only [GenerationWindow.exactIsBelow_eq]
      rfl

theorem exactAccept_eq (replay : ReplayWindow) (generation index : UInt32) :
    replay.exactAccept overflow generation index = .ok (replay.accept generation index) := by
  unfold exactAccept accept
  rw [exactIsReplay_eq]
  by_cases refused : replay.isReplay generation index = true
  · rw [if_pos refused, refused]
    rfl
  · rw [if_neg refused, Bool.eq_false_iff.2 refused]
    simp only [GenerationWindow.exactRecord_eq]
    rfl

end ReplayWindow

/-! ### Decryption -/

/-- The state after a change, with the accepted position recorded. -/
def Staged.exactResulting (staged : Staged) (state : RatchetState) : Except Error RatchetState :=
  let changed := match staged.change with
    | .replace replacement => replacement
    | .send chain => { state with sendingChain := some chain }
    | .receive reception => reception.apply state
  match staged.accepted with
  | none => .ok changed
  | some slot => do
    let (_, replay) ← changed.replay.exactAccept overflow slot.generation slot.index
    return { changed with replay := replay }

theorem Staged.exactResulting_eq (staged : Staged) (state : RatchetState) :
    staged.exactResulting overflow state = .ok (staged.resulting state) := by
  unfold exactResulting resulting
  cases staged.accepted with
  | none => rfl
  | some slot =>
    simp only [ReplayWindow.exactAccept_eq]
    rfl

namespace Connection

variable (provider : Provider σ)

/-- Whether a message on a known chain was accepted before. -/
def exactIsReplayed (state : RatchetState) (header : MessageHeader) : Except Error Bool :=
  match (state.place header.ratchetKey).knownGeneration with
  | some generation => state.replay.exactIsReplay overflow generation header.chainIndex
  | none => .ok false

/-- The key of an incoming message, the generation of its chain, and the change. -/
def exactReceivingKey (limits : RatchetLimits) (state : RatchetState) (header : MessageHeader) :
    Crypto σ (FixedBytes 32 × UInt32 × Change) := do
  match state.place header.ratchetKey with
  | .current generation =>
    let (key, reception) ← state.exactStageReceive overflow provider limits header.chainIndex
    return (key, generation, .receive reception)
  | .adopt generation =>
    let (key, reception) ← state.exactStageReceive overflow provider limits header.chainIndex
    return (key, generation, .receive { reception with adopted := some header.ratchetKey })
  | .previous generation =>
    match state.skipped.get? ⟨generation, header.chainIndex⟩ with
    | none => throw .replayDetected
    | some key =>
      return (key, generation,
        .receive { generation := generation, index := header.chainIndex, fromCache := true })
  | .ratchet =>
    let turned ← state.exactReceivingTurn overflow provider limits header
    let (key, received) ← turned.exactReceive overflow provider limits header.chainIndex
    return (key, received.receivingGeneration, .replace received)
  | .retired => throw .replayDetected
  | .unexpected =>
    throw (.peerPublicKey "message uses a ratchet key with no receiving chain")

/-- Decrypt a message without moving the connection. -/
def exactStageDecrypt (connection : Connection) (message : RatchetMessage)
    (associatedData : Bytes) : Crypto σ (Bytes × Staged) := do
  let state ← Crypto.ofExcept connection.state
  let replayed ← Crypto.ofExcept (exactIsReplayed overflow state message.header)
  if replayed then
    throw .replayDetected
  let (key, generation, change) ←
    exactReceivingKey overflow provider connection.limits state message.header
  let plaintext ← MessageCipher.decrypt provider key message.ciphertext
    (MessageCipher.associatedData state.associatedData associatedData message.header)
  return (plaintext, ⟨change, some ⟨generation, message.header.chainIndex⟩⟩)

/-- Commit a change. -/
def exactCommit (connection : Connection) (staged : Staged) : Except Error Connection :=
  match connection.phase with
  | .established state => do
    let state ← staged.exactResulting overflow state
    return { connection with phase := .established state }
  | _ => .ok connection

/-- Decrypt an incoming message. -/
def exactDecryptNext (connection : Connection) (message : RatchetMessage)
    (associatedData : Bytes) : Crypto σ (Bytes × Connection) := do
  let (plaintext, staged) ←
    connection.exactStageDecrypt overflow provider message associatedData
  let connection ← Crypto.ofExcept (connection.exactCommit overflow staged)
  return (plaintext, connection)

theorem exactIsReplayed_eq (state : RatchetState) (header : MessageHeader) :
    exactIsReplayed overflow state header = .ok (isReplayed state header) := by
  unfold exactIsReplayed isReplayed
  cases (state.place header.ratchetKey).knownGeneration with
  | none => rfl
  | some generation => exact ReplayWindow.exactIsReplay_eq overflow state.replay _ _

theorem exactReceivingKey_eq (limits : RatchetLimits) (state : RatchetState)
    (header : MessageHeader) :
    exactReceivingKey overflow provider limits state header =
      receivingKey provider limits state header := by
  simp only [exactReceivingKey, RatchetState.exactStageReceive_eq,
    RatchetState.exactReceivingTurn_eq, RatchetState.exactReceive_eq]
  rfl

theorem exactStageDecrypt_eq (connection : Connection) (message : RatchetMessage)
    (associatedData : Bytes) :
    connection.exactStageDecrypt overflow provider message associatedData =
      connection.stageDecrypt provider message associatedData := by
  simp only [exactStageDecrypt, stageDecrypt, exactIsReplayed_eq, exactReceivingKey_eq]
  rfl

theorem exactCommit_eq (connection : Connection) (staged : Staged) :
    connection.exactCommit overflow staged = .ok (connection.commit staged) := by
  unfold exactCommit commit
  cases connection.phase with
  | unestablished => rfl
  | established state =>
    simp only [Staged.exactResulting_eq]
    rfl
  | closed => rfl

/-- Decryption never leaves the range of thirty-two-bit numbers: with every difference and every
successor of positions and generations taken exactly it goes the same way, whatever a result out
of range would lead to. -/
theorem exactDecryptNext_eq (connection : Connection) (message : RatchetMessage)
    (associatedData : Bytes) :
    connection.exactDecryptNext overflow provider message associatedData =
      connection.decryptNext provider message associatedData := by
  simp only [exactDecryptNext, decryptNext, exactStageDecrypt_eq, exactCommit_eq]
  rfl

end Connection

end RatchetMessaging
