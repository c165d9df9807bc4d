import RatchetMessaging.Ratchet.MessageCipher
import RatchetMessaging.Ratchet.Turn
import RatchetMessaging.Proofs.Ratchet.Reception

/-!
Contract: providers whose primitives keep their promises on the keys in use.

Owns:
- `Primitives`, the functions that the primitives of such a provider compute, and
  `Provider.Dependable`, what it promises: agreement is symmetric, and what was sealed opens;
- the keys of a chain as functions of its first key, which need nothing of the provider but its
  authentication codes, `Provider.Authenticates`;
- the values, and the success, of the ratchet's computations with such a provider.

Does not own: secrecy, of which nothing is promised.
-/

namespace RatchetMessaging

/-! ### Promises -/

/-- The functions behind the primitives. -/
structure Primitives where
  /-- The public key of a secret. -/
  publicKey : FixedBytes 32 → FixedBytes 32
  /-- The value that the owners of two secrets agree on. -/
  agree : FixedBytes 32 → FixedBytes 32 → FixedBytes 32
  derive : Option Bytes → Bytes → Bytes → (size : Nat) → FixedBytes size
  mac : Bytes → Bytes → FixedBytes 32

/-- The provider computes the given functions from every state, on usable secrets, and draws
only such. Drawing and sealing may fail. -/
structure Provider.Dependable {σ : Type} (provider : Provider σ) (primitives : Primitives)
    (usable : FixedBytes 32 → Prop) : Prop where
  drawn : ∀ {before after secret},
    provider.randomBytes 32 before = .ok secret after → usable secret
  publicKey : ∀ {secret}, usable secret →
    Crypto.Returns (provider.x25519Public secret) (primitives.publicKey secret)
  agrees : ∀ {own peer}, usable own → usable peer →
    Crypto.Returns (provider.x25519Shared own (primitives.publicKey peer))
      (primitives.agree own peer)
  symmetric : ∀ {own peer}, usable own → usable peer →
    primitives.agree own peer = primitives.agree peer own
  derives : ∀ {salt material info size}, size ≤ 64 →
    Crypto.Returns (provider.hkdf salt material info size)
      (primitives.derive salt material info size)
  macs : ∀ {key message},
    Crypto.Returns (provider.hmac key message) (primitives.mac key message)
  opens : ∀ {key nonce plaintext associatedData before ciphertext after},
    provider.aeadEncrypt key nonce plaintext associatedData before = .ok ciphertext after →
      Crypto.Returns (provider.aeadDecrypt key nonce ciphertext associatedData) plaintext

/-! ### Keys as functions -/

namespace Primitives

variable (primitives : Primitives)

/-- The next root key and the key of a new chain. -/
def stepRoot (rootKey shared : FixedBytes 32) : FixedBytes 32 × FixedBytes 32 :=
  let derived := primitives.derive (some rootKey.toBytes) shared.toBytes
    RatchetState.rootStepInfo (32 + 32)
  (derived.left, derived.right)

/-- The key of a chain after `count` messages. -/
def chainKeyAt (first : FixedBytes 32) : (count : Nat) → FixedBytes 32
  | 0 => first
  | count + 1 => primitives.mac (chainKeyAt first count).toBytes Chain.chainLabel

/-- The key of the message at a position of a chain. -/
def messageKeyAt (first : FixedBytes 32) (position : UInt32) : FixedBytes 32 :=
  primitives.mac (primitives.chainKeyAt first position.toNat).toBytes Chain.messageLabel

/-- The chain before its message at a position. -/
def chainAt (kind : ChainKind) (first : FixedBytes 32) (position : UInt32) : Chain :=
  ⟨kind, primitives.chainKeyAt first position.toNat, position⟩

theorem chainAt_succ (kind : ChainKind) (first : FixedBytes 32) {position : UInt32}
    (notLast : position ≠ 0xFFFFFFFF) :
    primitives.chainAt kind first (position + 1) =
      ⟨kind, primitives.mac (primitives.chainKeyAt first position.toNat).toBytes Chain.chainLabel,
        position + 1⟩ := by
  rw [chainAt, toNat_succ_of_ne_last notLast]
  rfl

/-- The pair is that of a usable secret. -/
def Owns (usable : FixedBytes 32 → Prop) (pair : X25519KeyPair) : Prop :=
  usable pair.secret ∧ pair.publicKey = ⟨primitives.publicKey pair.secret⟩

end Primitives

/-! ### Keys of a chain -/

/-- The authentication codes that the provider computes are the right ones, if it computes any. -/
def Provider.Authenticates {σ : Type} (provider : Provider σ) (primitives : Primitives) : Prop :=
  ∀ key message before value after,
    provider.hmac key message before = .ok value after → value = primitives.mac key message

namespace Provider.Authenticates

variable {σ : Type} {provider : Provider σ} {primitives : Primitives} {before after : σ}
  {kind : ChainKind} {first : FixedBytes 32} {position : UInt32}

theorem advance_eq_ok (authenticates : provider.Authenticates primitives)
    {messageKey : MessageKey} {next : Chain}
    (advanced : (primitives.chainAt kind first position).advance provider before =
      .ok (messageKey, next) after) :
    messageKey = ⟨position, primitives.messageKeyAt first position⟩ ∧
      next = primitives.chainAt kind first (position + 1) := by
  have notLast : position ≠ 0xFFFFFFFF := (Chain.advance_eq_ok advanced).1
  unfold Chain.advance at advanced
  rw [if_neg (show (primitives.chainAt kind first position).index ≠ 0xFFFFFFFF from notLast)]
    at advanced
  simp only [Crypto.bind_eq_ok, Crypto.pure_eq_ok, Prod.mk.injEq] at advanced
  obtain ⟨_, _, isMessageKey, _, _, isChainKey, ⟨rfl, rfl⟩, _⟩ := advanced
  have messageValue := authenticates _ _ _ _ _ isMessageKey
  have chainValue := authenticates _ _ _ _ _ isChainKey
  refine ⟨by rw [messageValue]; rfl, ?_⟩
  rw [chainValue, primitives.chainAt_succ kind first notLast]
  rfl

/-- Passing over positions derives their keys. -/
theorem advanceBy_eq_ok (authenticates : provider.Authenticates primitives) {count : Nat}
    {messageKeys : List MessageKey} {next : Chain}
    (advanced : (primitives.chainAt kind first position).advanceBy provider count before =
      .ok (messageKeys, next) after) :
    (∀ messageKey ∈ messageKeys,
        messageKey.key = primitives.messageKeyAt first messageKey.index) ∧
      next = primitives.chainAt kind first next.index := by
  induction count generalizing position messageKeys before with
  | zero =>
    simp only [Chain.advanceBy, Crypto.pure_eq_ok, Prod.mk.injEq] at advanced
    obtain ⟨⟨rfl, rfl⟩, _⟩ := advanced
    exact ⟨by simp, rfl⟩
  | succ count inductionHypothesis =>
    simp only [Chain.advanceBy, Crypto.bind_eq_ok, Crypto.pure_eq_ok, Prod.exists,
      Prod.mk.injEq] at advanced
    obtain ⟨_, _, _, firstStep, rest, last, _, otherSteps, ⟨rfl, rfl⟩, rfl⟩ := advanced
    obtain ⟨rfl, rfl⟩ := authenticates.advance_eq_ok firstStep
    obtain ⟨keys, lastChain⟩ := inductionHypothesis otherSteps
    refine ⟨fun messageKey member => ?_, lastChain⟩
    rcases List.mem_cons.1 member with rfl | later
    · rfl
    · exact keys messageKey later

end Provider.Authenticates

namespace Provider.Dependable

variable {σ : Type} {provider : Provider σ} {primitives : Primitives}
  {usable : FixedBytes 32 → Prop} {before after : σ}

/-! ### Key pairs and root keys -/

theorem generate_eq_ok (dependable : provider.Dependable primitives usable)
    {pair : X25519KeyPair} (generated : X25519KeyPair.generate provider before = .ok pair after) :
    primitives.Owns usable pair := by
  simp only [X25519KeyPair.generate, X25519KeyPair.ofSecret, Crypto.bind_eq_ok,
    Crypto.pure_eq_ok] at generated
  obtain ⟨secret, _, drawn, _, _, published, rfl, _⟩ := generated
  have secretUsable := dependable.drawn drawn
  refine ⟨secretUsable, ?_⟩
  rw [(dependable.publicKey secretUsable).eq_of_ok published]

theorem shared (dependable : provider.Dependable primitives usable) {own peer : X25519KeyPair}
    (owns : primitives.Owns usable own) (peerOwns : primitives.Owns usable peer) :
    Crypto.Returns (own.shared provider peer.publicKey)
      (primitives.agree own.secret peer.secret) := by
  unfold X25519KeyPair.shared
  rw [peerOwns.2]
  exact dependable.agrees owns.1 peerOwns.1

theorem stepRoot (dependable : provider.Dependable primitives usable)
    (rootKey shared : FixedBytes 32) :
    Crypto.Returns (RatchetState.stepRoot provider rootKey shared)
      (primitives.stepRoot rootKey shared) :=
  (dependable.derives (by decide)).bind (Crypto.returns_pure _)

/-! ### Chains -/

theorem advance (dependable : provider.Dependable primitives usable) (kind : ChainKind)
    (first : FixedBytes 32) {position : UInt32} (notLast : position ≠ 0xFFFFFFFF) :
    Crypto.Returns ((primitives.chainAt kind first position).advance provider)
      (⟨position, primitives.messageKeyAt first position⟩,
        primitives.chainAt kind first (position + 1)) := by
  unfold Chain.advance
  rw [if_neg (show (primitives.chainAt kind first position).index ≠ 0xFFFFFFFF from notLast)]
  refine dependable.macs.bind (dependable.macs.bind ?_)
  rw [primitives.chainAt_succ kind first notLast]
  exact Crypto.returns_pure _

theorem authenticates (dependable : provider.Dependable primitives usable) :
    provider.Authenticates primitives :=
  fun _ _ _ _ _ computed => dependable.macs.eq_of_ok computed

theorem advance_eq_ok (dependable : provider.Dependable primitives usable) {kind : ChainKind}
    {first : FixedBytes 32} {position : UInt32} {messageKey : MessageKey} {next : Chain}
    (advanced : (primitives.chainAt kind first position).advance provider before =
      .ok (messageKey, next) after) :
    messageKey = ⟨position, primitives.messageKeyAt first position⟩ ∧
      next = primitives.chainAt kind first (position + 1) :=
  dependable.authenticates.advance_eq_ok advanced

/-- Passing over positions derives their keys. -/
theorem advanceBy_eq_ok (dependable : provider.Dependable primitives usable) {kind : ChainKind}
    {first : FixedBytes 32} {count : Nat} {position : UInt32} {messageKeys : List MessageKey}
    {next : Chain}
    (advanced : (primitives.chainAt kind first position).advanceBy provider count before =
      .ok (messageKeys, next) after) :
    (∀ messageKey ∈ messageKeys,
        messageKey.key = primitives.messageKeyAt first messageKey.index) ∧
      next = primitives.chainAt kind first next.index :=
  dependable.authenticates.advanceBy_eq_ok advanced

theorem advanceBy_succeeds (dependable : provider.Dependable primitives usable)
    (kind : ChainKind) (first : FixedBytes 32) {count : Nat} {position : UInt32}
    (room : position.toNat + count ≤ 0xFFFFFFFF) :
    Crypto.Succeeds ((primitives.chainAt kind first position).advanceBy provider count) := by
  induction count generalizing position with
  | zero => exact Crypto.succeeds_pure _
  | succ count inductionHypothesis =>
    have notLast : position ≠ 0xFFFFFFFF := by
      rintro rfl
      exact absurd room (by simp)
    refine (dependable.advance kind first notLast).succeeds.bind ?_
    rintro ⟨messageKey, next⟩ ⟨_, _, advanced⟩
    obtain ⟨rfl, rfl⟩ := dependable.advance_eq_ok advanced
    have next := toNat_succ_of_ne_last notLast
    refine (inductionHypothesis (by omega)).bind (fun _ _ => Crypto.succeeds_pure _)

/-! ### Reception and the turn of the receiver -/

section Receiving

variable {limits : RatchetLimits} {state : RatchetState} {first : FixedBytes 32}
  {position : UInt32}

/-- The rest of a chain can be passed over when the gap is within the limit. -/
theorem skipReceivingUntil_succeeds (dependable : provider.Dependable primitives usable)
    {limit : UInt32}
    (chain : ∀ chain, state.receivingChain = some chain →
      ∃ first, chain = primitives.chainAt .receiving first chain.index ∧
        (chain.index < limit → limit - chain.index ≤ limits.maxSkip)) :
    Crypto.Succeeds (state.skipReceivingUntil provider limits limit) := by
  unfold RatchetState.skipReceivingUntil
  cases isChain : state.receivingChain with
  | none => exact Crypto.succeeds_pure _
  | some present =>
    obtain ⟨first, atPosition, gap⟩ := chain present isChain
    simp only
    split
    · exact Crypto.succeeds_pure _
    · rename_i notReached
      rw [UInt32.not_le] at notReached
      have checked := RatchetState.checkGap_eq_ok.2 (gap notReached)
      have below := UInt32.lt_iff_toNat_lt.1 notReached
      have room : present.index.toNat + (limit - present.index).toNat ≤ 0xFFFFFFFF := by
        rw [UInt32.toNat_sub_of_le _ _ (UInt32.le_of_lt notReached)]
        have bound := limit.toNat_lt
        omega
      refine (Crypto.returns_ofExcept checked).succeeds.bind (fun _ _ => ?_)
      rw [Chain.cacheNext_eq, atPosition]
      refine Crypto.Succeeds.bind ?_ (fun _ _ => Crypto.succeeds_pure _)
      exact (dependable.advanceBy_succeeds .receiving first room).bind
        (fun _ _ => Crypto.succeeds_pure _)

/-- A message can be received out of the cache, or ahead within the limit. -/
theorem stageReceive_succeeds (dependable : provider.Dependable primitives usable)
    {index : UInt32}
    (isChain : state.receivingChain = some (primitives.chainAt .receiving first position))
    (ready : (index < position ∧
        state.skipped.contains ⟨state.receivingGeneration, index⟩ = true) ∨
      position ≤ index ∧ index - position ≤ limits.maxSkip ∧ index ≠ 0xFFFFFFFF) :
    Crypto.Succeeds (state.stageReceive provider limits index) := by
  unfold RatchetState.stageReceive
  simp only [isChain]
  rcases ready with ⟨behind, cached⟩ | ⟨reached, gap, notLast⟩
  · obtain ⟨key, found⟩ := SkippedKeys.contains_iff.1 cached
    rw [if_pos (show index < (primitives.chainAt .receiving first position).index from behind),
      found]
    exact Crypto.succeeds_pure _
  · rw [if_neg (show ¬ index < (primitives.chainAt .receiving first position).index from
      UInt32.not_lt.2 reached)]
    have checked := RatchetState.checkGap_eq_ok.2 gap
    have room : position.toNat + (index - position).toNat ≤ 0xFFFFFFFF := by
      rw [UInt32.toNat_sub_of_le _ _ reached]
      rw [UInt32.le_iff_toNat_le] at reached
      have bound := index.toNat_lt
      omega
    refine (Crypto.returns_ofExcept checked).succeeds.bind (fun _ _ => ?_)
    refine (dependable.advanceBy_succeeds .receiving first room).bind ?_
    rintro ⟨messageKeys, last⟩ ⟨_, _, advanced⟩
    have lastPosition : last.index = index := by
      have moved := (Chain.advanceBy_eq_ok advanced).2
      rw [UInt32.toNat_sub_of_le _ _ reached] at moved
      rw [UInt32.le_iff_toNat_le] at reached
      exact UInt32.toNat_inj.1 (moved.trans (Nat.add_sub_cancel' reached))
    simp only
    rw [(dependable.advanceBy_eq_ok advanced).2, lastPosition]
    exact (dependable.advance .receiving first notLast).succeeds.bind
      (fun _ _ => Crypto.succeeds_pure _)

theorem receive_succeeds (dependable : provider.Dependable primitives usable)
    {index : UInt32}
    (isChain : state.receivingChain = some (primitives.chainAt .receiving first position))
    (ready : (index < position ∧
        state.skipped.contains ⟨state.receivingGeneration, index⟩ = true) ∨
      position ≤ index ∧ index - position ≤ limits.maxSkip ∧ index ≠ 0xFFFFFFFF) :
    Crypto.Succeeds (state.receive provider limits index) := by
  rw [RatchetState.receive_eq]
  exact (dependable.stageReceive_succeeds isChain ready).bind (fun _ _ => Crypto.succeeds_pure _)

/-- The receiver can follow a new key when the rest of its chain is within the limit. -/
theorem receivingTurn_succeeds (dependable : provider.Dependable primitives usable)
    {header : MessageHeader} {peer : X25519KeyPair} (owns : primitives.Owns usable state.keyPair)
    (peerOwns : primitives.Owns usable peer) (isKey : header.ratchetKey = peer.publicKey)
    (notLast : state.receivingGeneration ≠ 0xFFFFFFFF)
    (chain : ∀ chain, state.receivingChain = some chain →
      ∃ first, chain = primitives.chainAt .receiving first chain.index ∧
        (chain.index < header.previousChainLength →
          header.previousChainLength - chain.index ≤ limits.maxSkip)) :
    Crypto.Succeeds (state.receivingTurn provider limits header) := by
  refine (dependable.skipReceivingUntil_succeeds chain).bind ?_
  rintro _ ⟨_, _, skipped⟩
  obtain ⟨_, _, rfl⟩ := RatchetState.skipReceivingUntil_frame skipped
  simp only
  rw [if_neg notLast, isKey]
  exact (dependable.shared owns peerOwns).succeeds.bind (fun _ _ =>
    (dependable.stepRoot _ _).succeeds.bind (fun _ _ => Crypto.succeeds_pure _))

/-! ### Messages -/

/-- What was encrypted decrypts. -/
theorem decrypts (dependable : provider.Dependable primitives usable)
    {messageKey : FixedBytes 32} {plaintext authenticated ciphertext : Bytes}
    (encrypted : MessageCipher.encrypt provider messageKey plaintext authenticated before =
      .ok ciphertext after) :
    Crypto.Returns (MessageCipher.decrypt provider messageKey ciphertext authenticated)
      plaintext := by
  have material : Crypto.Returns (MessageCipher.material provider messageKey)
      ((primitives.derive none messageKey.toBytes MessageCipher.expansionInfo (32 + 12)).left,
        (primitives.derive none messageKey.toBytes MessageCipher.expansionInfo (32 + 12)).right) :=
    (dependable.derives (by decide)).bind (Crypto.returns_pure _)
  simp only [MessageCipher.encrypt, Crypto.bind_eq_ok, Prod.exists] at encrypted
  obtain ⟨key, nonce, _, expanded, sealed⟩ := encrypted
  have expansion := material.eq_of_ok expanded
  rw [← expansion] at material
  exact material.bind (dependable.opens sealed)

end Receiving

end Provider.Dependable

end RatchetMessaging
