import RatchetMessaging.Proofs.Connection.ExactArithmetic
import RatchetMessaging.Proofs.Provider.Plans
import RatchetMessaging.Proofs.Ratchet.Turn

/-!
Contract: the work that one incoming message can cause.

Owns:
- the plan of an incoming message, which its header and the state determine: the steps of the chain
  that is there, the turn of the ratchet, the steps of the new chain, and the opening;
- reception of a message follows its plan, with every provider;
- the bounds on a plan, whatever the header says.

Does not own: the arithmetic of positions.
-/

namespace RatchetMessaging

open Crypto
open Query (Kind)

variable {σ : Type} (provider : Provider σ) (limits : RatchetLimits)

/-! ### The plan of a message -/

/-- How far a position lies ahead of a chain, unless the limit keeps the chain from going there. -/
def Chain.gapWithin (position : UInt32) (chain : Chain) : Option Nat :=
  if position.toNat - chain.index.toNat ≤ limits.maxSkip.toNat then
    some (position.toNat - chain.index.toNat)
  else none

namespace RatchetState

/-- How many keys of the present chain are passed over on the way to `limit`. -/
def passesTo (limit : UInt32) (state : RatchetState) : Option Nat :=
  match state.receivingChain with
  | none => some 0
  | some chain => chain.gapWithin limits limit

/-- How many steps of the present chain give the key at `index`: none if it lies behind the chain,
and otherwise one more than the keys passed over. -/
def stepsTo (index : UInt32) (state : RatchetState) : Option Nat :=
  match state.receivingChain with
  | none => none
  | some chain =>
    if index < chain.index then some 0 else (chain.gapWithin limits index).map (· + 1)

/-- How many steps of a chain that has just been started give the key at `index`. -/
def stepsFromStart (index : UInt32) : Nat :=
  if index ≤ limits.maxSkip then index.toNat + 1 else 0

/-- The position up to which a header takes the chain that is there. -/
def presentTarget (header : MessageHeader) (state : RatchetState) : UInt32 :=
  if state.place header.ratchetKey = .ratchet then header.previousChainLength
  else header.chainIndex

/-- The plan of a turn of the ratchet. -/
def turnKinds : List Kind := [.x25519Shared, .hkdf]

/-- The plan of the key of an incoming message. A gap that is refused ends it. -/
def receivingKinds (header : MessageHeader) (state : RatchetState) : List Kind :=
  match state.place header.ratchetKey with
  | .current _ | .adopt _ => (state.stepsTo limits header.chainIndex).elim [] Chain.advancesKinds
  | .ratchet =>
    (state.passesTo limits header.previousChainLength).elim [] fun passed =>
      Chain.advancesKinds passed ++ turnKinds ++
        Chain.advancesKinds (stepsFromStart limits header.chainIndex)
  | .previous _ | .retired | .unexpected => []

end RatchetState

/-- The plan of the opening of a message. -/
def MessageCipher.openingKinds : List Kind := [.hkdf, .aeadDecrypt]

/-- The plan of an incoming message. -/
def Connection.decryptionKinds (connection : Connection) (header : MessageHeader) : List Kind :=
  match connection.state with
  | .error _ => []
  | .ok state => state.receivingKinds connection.limits header ++ MessageCipher.openingKinds

/-! ### Reception follows the plan -/

namespace RatchetState

variable {limits}

/-- What comes after a gap is checked has to follow the plan only if the gap is within the limit. -/
theorem follows_checkGap_bind {α : Type} {gap : UInt32} {plan : List Kind}
    {logging : Crypto (σ × List Query) α} {plain : Crypto σ α}
    (follows : gap ≤ limits.maxSkip → Follows logging plain plan) :
    Follows (Crypto.ofExcept (checkGap limits gap) >>= fun _ => logging)
      (Crypto.ofExcept (checkGap limits gap) >>= fun _ => plain) plan := by
  by_cases within : gap ≤ limits.maxSkip
  · rw [checkGap_eq_ok.2 within]
    exact follows within
  · have refused : checkGap limits gap = .error (.tooManySkipped gap) :=
      if_pos (UInt32.not_le.1 within)
    rw [refused]
    exact follows_throw _ _

theorem gapWithin_of_ahead {chain : Chain} {position : UInt32} (ahead : chain.index ≤ position)
    (within : position - chain.index ≤ limits.maxSkip) :
    chain.gapWithin limits position = some (position - chain.index).toNat := by
  have gap := UInt32.toNat_sub_of_le position chain.index ahead
  have bound : (position - chain.index).toNat ≤ limits.maxSkip.toNat := within
  unfold Chain.gapWithin
  rw [gap] at bound ⊢
  exact if_pos bound

theorem gapWithin_of_not_ahead {chain : Chain} {position : UInt32}
    (notAhead : position ≤ chain.index) : chain.gapWithin limits position = some 0 := by
  have gap : position.toNat - chain.index.toNat = 0 := Nat.sub_eq_zero_of_le notAhead
  unfold Chain.gapWithin
  rw [gap]
  exact if_pos (Nat.zero_le _)

variable {state : RatchetState}

theorem follows_skipReceivingUntil {limit : UInt32} :
    Follows (state.skipReceivingUntil provider.logging limits limit)
      (state.skipReceivingUntil provider limits limit)
      ((state.passesTo limits limit).elim [] Chain.advancesKinds) := by
  unfold skipReceivingUntil passesTo
  cases state.receivingChain with
  | none => exact follows_pure _
  | some chain =>
    by_cases reached : limit ≤ chain.index
    · simp only [if_pos reached, gapWithin_of_not_ahead reached]
      exact follows_pure _
    · simp only [if_neg reached]
      refine follows_checkGap_bind fun within => ?_
      have ahead : chain.index ≤ limit := UInt32.le_of_lt (UInt32.not_le.1 reached)
      simp only [gapWithin_of_ahead ahead within, Chain.cacheNext_eq, bind_assoc, pure_bind]
      exact (Chain.follows_advanceBy provider _ chain).bind_pure _

theorem follows_stageReceive {index : UInt32} :
    Follows (state.stageReceive provider.logging limits index)
      (state.stageReceive provider limits index)
      ((state.stepsTo limits index).elim [] Chain.advancesKinds) := by
  unfold stageReceive stepsTo
  cases state.receivingChain with
  | none => exact follows_throw _ _
  | some chain =>
    by_cases behind : index < chain.index
    · simp only [if_pos behind]
      split
      · exact follows_throw _ _
      · exact follows_pure _
    · simp only [if_neg behind]
      refine follows_checkGap_bind fun within => ?_
      rw [gapWithin_of_ahead (UInt32.not_lt.1 behind) within]
      simp only [Option.map_some, Option.elim_some, Chain.advancesKinds_succ']
      refine (Chain.follows_advanceBy provider _ chain).bind fun passed _ => ?_
      exact (Chain.follows_advance provider passed.2).bind_pure _

theorem follows_receive {index : UInt32} :
    Follows (state.receive provider.logging limits index)
      (state.receive provider limits index)
      ((state.stepsTo limits index).elim [] Chain.advancesKinds) := by
  rw [receive_eq, receive_eq]
  exact (follows_stageReceive provider).bind_pure _

theorem stepsTo_of_started {chainKey : FixedBytes 32} {index : UInt32}
    (started : state.receivingChain = some ⟨.receiving, chainKey, 0⟩) :
    (state.stepsTo limits index).elim [] Chain.advancesKinds =
      Chain.advancesKinds (stepsFromStart limits index) := by
  have gap : index.toNat - (0 : UInt32).toNat = index.toNat := Nat.sub_zero _
  unfold stepsTo stepsFromStart Chain.gapWithin
  rw [started]
  simp only [UInt32.not_lt_zero, if_false, gap]
  by_cases within : index ≤ limits.maxSkip
  · rw [if_pos within, if_pos (UInt32.le_iff_toNat_le.1 within)]
    rfl
  · rw [if_neg within, if_neg (fun below => within (UInt32.le_iff_toNat_le.2 below))]
    rfl

/-- A chain is not taken to a position that the limit keeps it from. -/
theorem skipReceivingUntil_ne_ok {limit : UInt32} (refused : state.passesTo limits limit = none)
    (before : σ) (result : RatchetState) (after : σ) :
    state.skipReceivingUntil provider limits limit before ≠ .ok result after := by
  intro skipped
  unfold passesTo at refused
  rcases skipReceivingUntil_eq_ok skipped with
    ⟨_, behind⟩ | ⟨chain, _, _, isChain, ahead, within, _, _⟩
  · cases isChain : state.receivingChain with
    | none =>
      rw [isChain] at refused
      cases refused
    | some chain =>
      rw [isChain] at refused
      cases (gapWithin_of_not_ahead (behind chain isChain)).symm.trans refused
  · rw [isChain] at refused
    cases (gapWithin_of_ahead (UInt32.le_of_lt ahead) within).symm.trans refused

theorem follows_receivingTurn {header : MessageHeader} :
    Follows (state.receivingTurn provider.logging limits header)
      (state.receivingTurn provider limits header)
      ((state.passesTo limits header.previousChainLength).elim [] fun passed =>
        Chain.advancesKinds passed ++ turnKinds) := by
  have skips : Follows
      (state.skipReceivingUntil provider.logging limits header.previousChainLength) _ _ :=
    follows_skipReceivingUntil provider
  cases passes : state.passesTo limits header.previousChainLength with
  | none =>
    rw [passes] at skips
    exact skips.bind_of_fails (skipReceivingUntil_ne_ok provider passes) _ _
  | some passed =>
    rw [passes] at skips
    refine skips.bind fun skipped _ => ?_
    split
    · exact follows_throw _ _
    · refine (follows_logged _ _).bind fun shared _ => ?_
      exact ((follows_logged _ _).bind_pure _).bind_pure _

theorem receivingTurn_ne_ok {header : MessageHeader}
    (refused : state.passesTo limits header.previousChainLength = none) (before : σ)
    (result : RatchetState) (after : σ) :
    state.receivingTurn provider limits header before ≠ .ok result after := by
  intro turned
  obtain ⟨_, _, _, _, _, _, skipped, _⟩ := receivingTurn_eq_ok turned
  exact skipReceivingUntil_ne_ok provider refused _ _ _ skipped

end RatchetState

namespace MessageCipher

theorem follows_decrypt (messageKey : FixedBytes 32) (ciphertext authenticated : Bytes) :
    Follows (decrypt provider.logging messageKey ciphertext authenticated)
      (decrypt provider messageKey ciphertext authenticated) openingKinds := by
  change Follows _ _ ([Kind.hkdf] ++ [Kind.aeadDecrypt])
  refine Follows.bind ?_ fun derived _ => follows_logged _ _
  exact (follows_logged _ _).bind_pure _

end MessageCipher

namespace Connection

open RatchetState

variable {limits} {state : RatchetState}

theorem follows_receivingKey {header : MessageHeader} :
    Follows (receivingKey provider.logging limits state header)
      (receivingKey provider limits state header) (state.receivingKinds limits header) := by
  unfold receivingKey receivingKinds
  cases state.place header.ratchetKey with
  | current generation => exact (follows_stageReceive provider).bind_pure _
  | adopt generation => exact (follows_stageReceive provider).bind_pure _
  | previous generation =>
    simp only
    split
    · exact follows_throw _ _
    · exact follows_pure _
  | ratchet =>
    have turns : Follows (state.receivingTurn provider.logging limits header) _ _ :=
      follows_receivingTurn provider
    cases passes : state.passesTo limits header.previousChainLength with
    | none =>
      rw [passes] at turns
      exact turns.bind_of_fails (receivingTurn_ne_ok provider passes) _ _
    | some passed =>
      rw [passes] at turns
      refine turns.bind fun turned succeeds => ?_
      obtain ⟨before, after, isTurned⟩ := succeeds
      obtain ⟨_, _, rootKey, chainKey, _, _, _, _, _, _, isResult⟩ :=
        receivingTurn_eq_ok isTurned
      have started : turned.receivingChain = some ⟨.receiving, chainKey, 0⟩ := by
        rw [isResult]
      rw [← stepsTo_of_started started]
      exact (follows_receive provider).bind_pure _
  | retired => exact follows_throw _ _
  | unexpected => exact follows_throw _ _

theorem follows_stageDecrypt {connection : Connection} {message : RatchetMessage}
    {associatedData : Bytes} :
    Follows (connection.stageDecrypt provider.logging message associatedData)
      (connection.stageDecrypt provider message associatedData)
      (connection.decryptionKinds message.header) := by
  unfold stageDecrypt decryptionKinds
  cases connection.state with
  | error failure => exact follows_throw _ _
  | ok state =>
    simp only [Crypto.ofExcept, pure_bind]
    by_cases replayed : isReplayed state message.header = true
    · simp only [if_pos replayed]
      exact follows_throw _ _
    · simp only [if_neg replayed]
      refine (follows_receivingKey provider).bind fun received _ => ?_
      exact (MessageCipher.follows_decrypt provider _ _ _).bind_pure _

theorem follows_decryptNext {connection : Connection} {message : RatchetMessage}
    {associatedData : Bytes} :
    Follows (connection.decryptNext provider.logging message associatedData)
      (connection.decryptNext provider message associatedData)
      (connection.decryptionKinds message.header) :=
  (follows_stageDecrypt provider).bind_pure _

end Connection

/-! ### The bounds on a plan -/

namespace RatchetState

variable {state : RatchetState} {limits : RatchetLimits}

theorem gapWithin_le {chain : Chain} {position : UInt32} {gap : Nat}
    (within : chain.gapWithin limits position = some gap) : gap ≤ limits.maxSkip.toNat := by
  unfold Chain.gapWithin at within
  split at within
  · rename_i bound
    cases within
    exact bound
  · cases within

theorem passesTo_le {limit : UInt32} {passed : Nat}
    (passes : state.passesTo limits limit = some passed) : passed ≤ limits.maxSkip.toNat := by
  unfold passesTo at passes
  split at passes
  · cases passes
    exact Nat.zero_le _
  · exact gapWithin_le passes

theorem stepsTo_le {index : UInt32} {steps : Nat}
    (takes : state.stepsTo limits index = some steps) : steps ≤ limits.maxSkip.toNat + 1 := by
  unfold stepsTo at takes
  split at takes
  · cases takes
  · split at takes
    · cases takes
      exact Nat.zero_le _
    · obtain ⟨gap, within, rfl⟩ := Option.map_eq_some_iff.1 takes
      exact Nat.succ_le_succ (gapWithin_le within)

theorem stepsFromStart_le (index : UInt32) :
    stepsFromStart limits index ≤ limits.maxSkip.toNat + 1 := by
  unfold stepsFromStart
  split
  · rename_i within
    exact Nat.succ_le_succ (UInt32.le_iff_toNat_le.1 within)
  · exact Nat.zero_le _

/-- A gap beyond the limit on the chain that is there leaves nothing to derive. -/
theorem receivingKinds_of_gap {header : MessageHeader} {chain : Chain}
    (isChain : state.receivingChain = some chain)
    (beyond : limits.maxSkip.toNat < (state.presentTarget header).toNat - chain.index.toNat) :
    state.receivingKinds limits header = [] := by
  have refused : chain.gapWithin limits (state.presentTarget header) = none :=
    if_neg (Nat.not_le.2 beyond)
  unfold presentTarget at refused
  unfold receivingKinds passesTo stepsTo
  rw [isChain]
  cases placed : state.place header.ratchetKey with
  | ratchet =>
    rw [placed, if_pos rfl] at refused
    simp only [refused, Option.elim_none]
  | current generation | adopt generation =>
    rw [placed, if_neg (by simp)] at refused
    simp only [refused, Option.map_none]
    split <;> rfl
  | previous generation | retired | unexpected => rfl

/-- The key of a message takes the steps of at most two chains, with at most one turn between. -/
theorem receivingKinds_eq (state : RatchetState) (limits : RatchetLimits) (header : MessageHeader) :
    ∃ present turn started,
      state.receivingKinds limits header =
          Chain.advancesKinds present ++ turn ++ Chain.advancesKinds started ∧
        present + started ≤ 2 * limits.maxSkip.toNat + 1 ∧ (turn = [] ∨ turn = turnKinds) := by
  have none : ([] : List Kind) = Chain.advancesKinds 0 ++ [] ++ Chain.advancesKinds 0 := rfl
  have known : ∃ present turn started,
      (state.stepsTo limits header.chainIndex).elim [] Chain.advancesKinds =
          Chain.advancesKinds present ++ turn ++ Chain.advancesKinds started ∧
        present + started ≤ 2 * limits.maxSkip.toNat + 1 ∧ (turn = [] ∨ turn = turnKinds) := by
    cases takes : state.stepsTo limits header.chainIndex with
    | none => exact ⟨0, [], 0, none, Nat.zero_le _, .inl rfl⟩
    | some steps =>
      have bound := stepsTo_le takes
      refine ⟨steps, [], 0, ?_, by omega, .inl rfl⟩
      simp [Chain.advancesKinds]
  unfold receivingKinds
  cases state.place header.ratchetKey with
  | current generation => exact known
  | adopt generation => exact known
  | previous generation => exact ⟨0, [], 0, none, Nat.zero_le _, .inl rfl⟩
  | ratchet =>
    cases passes : state.passesTo limits header.previousChainLength with
    | none => exact ⟨0, [], 0, none, Nat.zero_le _, .inl rfl⟩
    | some passed =>
      have passedBound := passesTo_le passes
      have stepsBound : stepsFromStart limits header.chainIndex ≤ limits.maxSkip.toNat + 1 :=
        stepsFromStart_le _
      exact ⟨passed, turnKinds, stepsFromStart limits header.chainIndex, rfl, by omega, .inr rfl⟩
  | retired => exact ⟨0, [], 0, none, Nat.zero_le _, .inl rfl⟩
  | unexpected => exact ⟨0, [], 0, none, Nat.zero_le _, .inl rfl⟩

end RatchetState

namespace Connection

/-- The bounds on the calls for one incoming message. -/
structure BoundedWork (limits : RatchetLimits) (kinds : List Kind) : Prop where
  /-- At most `2 * maxSkip + 1` chain advances begin, -/
  advances : kinds.count (.hmac Chain.messageLabel) ≤ 2 * limits.maxSkip.toNat + 1
  /-- each with at most two digests. -/
  digests : kinds.countP Kind.isHmac ≤ 2 * (2 * limits.maxSkip.toNat + 1)
  agreements : kinds.count .x25519Shared ≤ 1
  derivations : kinds.count .hkdf ≤ 2
  openings : kinds.count .aeadDecrypt ≤ 1
  /-- There are no other calls; in particular nothing is drawn at random. -/
  onlyThese : ∀ kind ∈ kinds,
    kind ∈ Chain.advanceKinds ++ RatchetState.turnKinds ++ MessageCipher.openingKinds

/-- No key of a refused gap is derived. -/
structure RefusesGaps (connection : Connection) (header : MessageHeader) (kinds : List Kind) :
    Prop where
  /-- If the gap lies on the chain that is there, then no key at all is derived. -/
  present : ∀ state chain, connection.state = .ok state → state.receivingChain = some chain →
    connection.limits.maxSkip.toNat <
      (state.presentTarget header).toNat - chain.index.toNat →
    kinds.countP Kind.isHmac = 0
  /-- If it lies on the chain that the message starts, then only keys of the chain before it are
  derived. -/
  started : ∀ state passed, connection.state = .ok state →
    state.place header.ratchetKey = .ratchet → connection.limits.maxSkip < header.chainIndex →
    state.passesTo connection.limits header.previousChainLength = some passed →
    kinds.countP Kind.isHmac ≤ 2 * passed

variable {connection : Connection} {header : MessageHeader} {kinds plan : List Kind}
  {limits : RatchetLimits}

/-- What is bounded stays so if it ends earlier. -/
theorem BoundedWork.of_begins (bounded : BoundedWork limits plan) (begins : kinds <+: plan) :
    BoundedWork limits kinds where
  advances := Nat.le_trans (begins.sublist.count_le _) bounded.advances
  digests := Nat.le_trans begins.sublist.countP_le bounded.digests
  agreements := Nat.le_trans (begins.sublist.count_le _) bounded.agreements
  derivations := Nat.le_trans (begins.sublist.count_le _) bounded.derivations
  openings := Nat.le_trans (begins.sublist.count_le _) bounded.openings
  onlyThese kind member := bounded.onlyThese kind (begins.subset member)

theorem RefusesGaps.of_begins (refuses : connection.RefusesGaps header plan)
    (begins : kinds <+: plan) : connection.RefusesGaps header kinds where
  present state chain isState isChain beyond := by
    have fewer := begins.sublist.countP_le (p := Kind.isHmac)
    rw [refuses.present state chain isState isChain beyond] at fewer
    exact Nat.le_zero.1 fewer
  started state passed isState isTurn beyond passes :=
    Nat.le_trans begins.sublist.countP_le
      (refuses.started state passed isState isTurn beyond passes)

theorem mem_advancesKinds {count : Nat} {kind : Kind} (member : kind ∈ Chain.advancesKinds count) :
    kind ∈ Chain.advanceKinds := by
  obtain ⟨step, isStep, inStep⟩ := List.mem_flatten.1 member
  rwa [List.eq_of_mem_replicate isStep] at inStep

section Steps

variable {turn : List Kind} {present started : Nat}

/-- How often a kind stands in two runs of steps with at most one turn between them, and an
opening. -/
theorem countP_steps_le (bound : present + started ≤ 2 * limits.maxSkip.toNat + 1)
    (isTurn : turn = [] ∨ turn = RatchetState.turnKinds) (holds : Kind → Bool) :
    (Chain.advancesKinds present ++ turn ++ Chain.advancesKinds started ++
        MessageCipher.openingKinds).countP holds ≤
      (2 * limits.maxSkip.toNat + 1) * Chain.advanceKinds.countP holds +
        RatchetState.turnKinds.countP holds + MessageCipher.openingKinds.countP holds := by
  have steps := Nat.mul_le_mul_right (Chain.advanceKinds.countP holds) bound
  have turns : turn.countP holds ≤ RatchetState.turnKinds.countP holds := by
    rcases isTurn with rfl | rfl
    · exact Nat.zero_le _
    · exact Nat.le_refl _
  simp only [List.countP_append, Chain.countP_advancesKinds]
  rw [Nat.add_mul] at steps
  omega

theorem boundedWork_of_steps (bound : present + started ≤ 2 * limits.maxSkip.toNat + 1)
    (isTurn : turn = [] ∨ turn = RatchetState.turnKinds) :
    BoundedWork limits (Chain.advancesKinds present ++ turn ++ Chain.advancesKinds started ++
      MessageCipher.openingKinds) where
  advances := by
    have once : Chain.advanceKinds.countP (· == .hmac Chain.messageLabel) = 1 := by
      decide +kernel
    have count := countP_steps_le bound isTurn (· == .hmac Chain.messageLabel)
    rw [once, Nat.mul_one] at count
    exact count
  digests := by
    rw [Nat.mul_comm]
    exact countP_steps_le bound isTurn Kind.isHmac
  agreements := countP_steps_le bound isTurn (· == .x25519Shared)
  derivations := countP_steps_le bound isTurn (· == .hkdf)
  openings := countP_steps_le bound isTurn (· == .aeadDecrypt)
  onlyThese kind member := by
    simp only [List.mem_append] at member ⊢
    rcases member with ((inSteps | inTurn) | inSteps) | inOpening
    · exact .inl (.inl (mem_advancesKinds inSteps))
    · rcases isTurn with rfl | rfl
      · cases inTurn
      · exact .inl (.inr inTurn)
    · exact .inl (.inl (mem_advancesKinds inSteps))
    · exact .inr inOpening

end Steps

theorem boundedWork_decryptionKinds (connection : Connection) (header : MessageHeader) :
    BoundedWork connection.limits (connection.decryptionKinds header) := by
  unfold decryptionKinds
  cases connection.state with
  | error failure => exact ⟨by simp, by simp, by simp, by simp, by simp, by simp⟩
  | ok state =>
    obtain ⟨present, turn, started, kinds, bound, isTurn⟩ :=
      state.receivingKinds_eq connection.limits header
    simp only [kinds]
    exact boundedWork_of_steps bound isTurn

theorem countP_isHmac_advancesKinds (count : Nat) :
    (Chain.advancesKinds count).countP Kind.isHmac = 2 * count := by
  rw [Chain.countP_advancesKinds]
  exact Nat.mul_comm count 2

theorem refusesGaps_decryptionKinds (connection : Connection) (header : MessageHeader) :
    connection.RefusesGaps header (connection.decryptionKinds header) where
  present state chain isState isChain beyond := by
    unfold decryptionKinds
    rw [isState]
    simp only [RatchetState.receivingKinds_of_gap isChain beyond]
    rfl
  started state passed isState isTurn beyond passes := by
    have none : RatchetState.stepsFromStart connection.limits header.chainIndex = 0 :=
      if_neg (UInt32.not_le.2 beyond)
    unfold decryptionKinds RatchetState.receivingKinds
    simp only [isState, isTurn, passes, none, Option.elim_some, List.countP_append,
      countP_isHmac_advancesKinds]
    exact Nat.le_refl _

/-- Bounded work for an incoming message. Whatever a message says, forged or not, at every
connection and with every provider, also one that fails at any of its calls: the calls of one
decryption are of the kinds of the plan, from its first on, and these are within the bounds. A gap
beyond the limit is refused before a key of it is derived. And no difference and no successor of
positions leaves the range of thirty-two-bit numbers: decryption in exact arithmetic is the same
decryption, whatever a result out of range would lead to. -/
theorem decryptNext_work_bounded (provider : Provider σ) (connection : Connection)
    (message : RatchetMessage) (associatedData : Bytes) :
    (∀ before, ∃ queries,
      (∀ earlier,
        connection.decryptNext provider.logging message associatedData (before, earlier) =
          withQueries (earlier ++ queries)
            (connection.decryptNext provider message associatedData before)) ∧
      queries.map Query.kind <+: connection.decryptionKinds message.header ∧
      BoundedWork connection.limits (queries.map Query.kind) ∧
      connection.RefusesGaps message.header (queries.map Query.kind)) ∧
    ∀ overflow,
      connection.exactDecryptNext overflow provider message associatedData =
        connection.decryptNext provider message associatedData := by
  refine ⟨fun before => ?_, fun overflow => exactDecryptNext_eq overflow provider _ _ _⟩
  obtain ⟨queries, logs, begins, _⟩ := follows_decryptNext provider before
  exact ⟨queries, logs, begins, (boundedWork_decryptionKinds _ _).of_begins begins,
    (refusesGaps_decryptionKinds _ _).of_begins begins⟩

end Connection

end RatchetMessaging
