import RatchetMessaging.Proofs.Key
import RatchetMessaging.Proofs.Provider.Transparent

/-!
Contract: providers with which two parties can agree on keys.

Owns:
- `Provider.Agreeing`, for a provider that computes given functions, of which agreement is
  symmetric; two parties agree when the provider of each computes the same functions;
- `Provider.Vouching`, for a provider that makes a signing pair again from its seed and accepts the
  signatures of its own pairs;
- `Provider.Imitates`, for a provider that may fail at any call, and whose public keys and
  signatures are otherwise good for another one that works;
- the keys that such a provider makes and reads, and that it can read them back.

Does not own: the encryption of messages, of which nothing is asked here.
-/

namespace RatchetMessaging

variable {σ τ : Type} {provider : Provider σ} {working : Provider τ} {primitives : Primitives}
  {before after : σ}

/-! ### Public keys -/

/-- The public half of the pair is that of its secret. -/
def Primitives.Fits (primitives : Primitives) (pair : X25519KeyPair) : Prop :=
  pair.publicKey = ⟨primitives.publicKey pair.secret⟩

/-- The public keys that the provider computes are the right ones, if it computes any. -/
def Provider.Publishes (provider : Provider σ) (primitives : Primitives) : Prop :=
  ∀ secret before key after,
    provider.x25519Public secret before = .ok key after → key = primitives.publicKey secret

namespace Provider.Publishes

variable {pair : X25519KeyPair}

theorem fits_of_ofSecret (publishes : provider.Publishes primitives) {secret : FixedBytes 32}
    (made : X25519KeyPair.ofSecret provider secret before = .ok pair after) :
    primitives.Fits pair := by
  obtain ⟨rfl, published⟩ := X25519KeyPair.ofSecret_eq_ok.1 made
  exact congrArg X25519PublicKey.mk (publishes _ _ _ _ published)

theorem fits_of_generate (publishes : provider.Publishes primitives)
    (generated : X25519KeyPair.generate provider before = .ok pair after) :
    primitives.Fits pair := by
  obtain ⟨_, _, _, made⟩ := Crypto.bind_eq_ok.1 generated
  exact publishes.fits_of_ofSecret made

end Provider.Publishes

/-! ### Agreement -/

/-- The provider computes the given functions from every state. -/
structure Provider.Agreeing (provider : Provider σ) (primitives : Primitives) : Prop where
  publicKey : ∀ secret,
    Crypto.Returns (provider.x25519Public secret) (primitives.publicKey secret)
  agrees : ∀ own peer,
    Crypto.Returns (provider.x25519Shared own (primitives.publicKey peer))
      (primitives.agree own peer)
  symmetric : ∀ own peer, primitives.agree own peer = primitives.agree peer own
  derives : ∀ salt material info,
    Crypto.Returns (provider.hkdf salt material info 32) (primitives.derive salt material info 32)

namespace Provider.Agreeing

variable {pair : X25519KeyPair}

theorem ofSecret (agreeing : provider.Agreeing primitives) (secret : FixedBytes 32) :
    Crypto.Returns (X25519KeyPair.ofSecret provider secret)
      ⟨⟨primitives.publicKey secret⟩, secret⟩ :=
  (agreeing.publicKey secret).bind (Crypto.returns_pure _)

/-- The provider finds the public half of a pair that fits, wherever the pair was made. -/
theorem matches_of_fits (agreeing : provider.Agreeing primitives) (fits : primitives.Fits pair) :
    pair.Matches provider := by
  have computed := agreeing.ofSecret pair.secret
  rwa [← fits] at computed

theorem publishes (agreeing : provider.Agreeing primitives) : provider.Publishes primitives :=
  fun secret _ _ _ published => (agreeing.publicKey secret).eq_of_ok published

theorem fits_of_generate (agreeing : provider.Agreeing primitives)
    (generated : X25519KeyPair.generate provider before = .ok pair after) :
    primitives.Fits pair :=
  agreeing.publishes.fits_of_generate generated

/-- The value shared with a peer, from the secrets of both. -/
theorem shared (agreeing : provider.Agreeing primitives) (own : X25519KeyPair)
    {peer : X25519KeyPair} (fits : primitives.Fits peer) :
    Crypto.Returns (own.shared provider peer.publicKey)
      (primitives.agree own.secret peer.secret) := by
  unfold X25519KeyPair.shared
  rw [fits]
  exact agreeing.agrees own.secret peer.secret

end Provider.Agreeing

/-! ### Signatures -/

/-- The pair is that of a seed. -/
def Ed25519KeyPair.Seeded (provider : Provider σ) (pair : Ed25519KeyPair) : Prop :=
  ∃ seed before after, ofSeed provider seed before = .ok pair after

/-- The encoding of a signing pair starts with its seed, of which the same pair is made again.
Signatures of the pair are accepted, and what was accepted is accepted again. -/
structure Provider.Vouching (provider : Provider σ) : Prop where
  seed : ∀ {seed before pair after},
    Ed25519KeyPair.ofSeed provider seed before = .ok pair after →
      @FixedBytes.left 32 32 pair.encoding = seed
  remade : ∀ {seed before pair after},
    Ed25519KeyPair.ofSeed provider seed before = .ok pair after →
      Crypto.Returns (Ed25519KeyPair.ofSeed provider seed) pair
  accepts : ∀ {pair : Ed25519KeyPair} {message before signature after}, pair.Seeded provider →
    pair.sign provider message before = .ok signature after →
      Crypto.Returns (verifySignature provider pair.publicKey message signature) true
  steady : ∀ {key message signature before after},
    verifySignature provider key message signature before = .ok true after →
      Crypto.Returns (verifySignature provider key message signature) true

/-- The public keys and the signatures of the provider are good for another one that works, as far
as the provider does not fail. -/
structure Provider.Imitates (provider : Provider σ) (working : Provider τ)
    (primitives : Primitives) : Prop where
  publishes : provider.Publishes primitives
  seeds : ∀ {seed before pair after},
    Ed25519KeyPair.ofSeed provider seed before = .ok pair after → pair.Seeded working
  signs : working.Vouching → ∀ {pair : Ed25519KeyPair} {message before signature after},
    pair.Seeded working → pair.sign provider message before = .ok signature after →
      Crypto.Returns (verifySignature working pair.publicKey message signature) true
  verifies : working.Vouching → ∀ {key message signature before after},
    verifySignature provider key message signature before = .ok true after →
      Crypto.Returns (verifySignature working key message signature) true

theorem Provider.Imitates.repeats (imitates : provider.Imitates working primitives)
    (agreeing : working.Agreeing primitives) : working.Repeats provider := by
  intro secret _ _ _ published
  rw [imitates.publishes _ _ _ _ published]
  exact agreeing.publicKey secret

theorem Provider.Agreeing.imitates (agreeing : provider.Agreeing primitives) :
    provider.Imitates provider primitives where
  publishes := agreeing.publishes
  seeds made := ⟨_, _, _, made⟩
  signs vouching := vouching.accepts
  verifies vouching := vouching.steady

namespace Ed25519KeyPair

variable {pair : Ed25519KeyPair}

/-- A pair that was made from a seed is read back. -/
theorem Seeded.ofStored (seeded : pair.Seeded provider) (vouching : provider.Vouching) :
    Crypto.Returns (ofStored provider pair.encoding.toBytes pair.publicKey.toBytes) pair := by
  obtain ⟨seed, _, _, made⟩ := seeded
  intro before
  obtain ⟨after, remade⟩ := vouching.remade made before
  rw [← vouching.seed made] at remade
  exact ⟨after, ofStored_eq_ok.2 ⟨rfl, rfl, remade⟩⟩

end Ed25519KeyPair

namespace SignedPreKey

variable {id : UInt32} {keyPair : X25519KeyPair} {signer : Ed25519KeyPair}
  {signature : Ed25519Signature} {owner : Ed25519PublicKey} {preKey : SignedPreKey}

/-- The signature verifies under the key of the owner, from every state of the provider. -/
def VouchedFor (provider : Provider σ) (owner : Ed25519PublicKey) (preKey : SignedPreKey) : Prop :=
  Crypto.Returns (preKey.verify provider owner) true

theorem keyPair_of_sign (signed : sign provider id keyPair signer before = .ok preKey after) :
    preKey.keyPair = keyPair := by
  obtain ⟨_, _, _, returned⟩ := Crypto.bind_eq_ok.1 signed
  obtain ⟨rfl, _⟩ := Crypto.pure_eq_ok.1 returned
  rfl

theorem vouchedFor_of_sign
    (accepts : ∀ {message before signature after},
      signer.sign provider message before = .ok signature after →
        Crypto.Returns (verifySignature working signer.publicKey message signature) true)
    (signed : sign provider id keyPair signer before = .ok preKey after) :
    preKey.VouchedFor working signer.publicKey := by
  obtain ⟨_, _, isSigned, returned⟩ := Crypto.bind_eq_ok.1 signed
  obtain ⟨rfl, _⟩ := Crypto.pure_eq_ok.1 returned
  exact accepts isSigned

/-- A pre-key that is vouched for is put together again. -/
theorem VouchedFor.ofStored (vouched : preKey.VouchedFor provider owner) :
    Crypto.Returns (ofStored provider preKey.id preKey.keyPair preKey.signature owner) preKey :=
  Crypto.Returns.bind vouched (Crypto.returns_pure preKey)

end SignedPreKey

/-! ### The assumptions can be met together -/

theorem Provider.transparent_agreeing : Provider.transparent.Agreeing .transparent where
  publicKey _ := Crypto.returns_pure _
  agrees _ _ := Crypto.returns_pure _
  symmetric _ _ := transparent_dependable.symmetric trivial trivial
  derives _ _ _ := Crypto.returns_pure _

theorem Ed25519KeyPair.ofSeed_transparent (seed : FixedBytes 32) :
    Crypto.Returns (ofSeed .transparent seed) ⟨⟨seed⟩, seed.append seed⟩ :=
  (Crypto.returns_pure _).bind (Crypto.returns_pure _)

theorem Provider.transparent_vouching : Provider.transparent.Vouching where
  seed made := by
    rw [(Ed25519KeyPair.ofSeed_transparent _).eq_of_ok made]
    exact FixedBytes.ext (List.take_left' (FixedBytes.length_toBytes _))
  remade made := by
    rw [(Ed25519KeyPair.ofSeed_transparent _).eq_of_ok made]
    exact Ed25519KeyPair.ofSeed_transparent _
  accepts _ signed := by
    obtain ⟨_, _, signed, returned⟩ := Crypto.bind_eq_ok.1 signed
    obtain ⟨rfl, _⟩ := Crypto.pure_eq_ok.1 signed
    obtain ⟨rfl, _⟩ := Crypto.pure_eq_ok.1 returned
    exact fun before => ⟨before, congrArg (EStateM.Result.ok · before) (decide_eq_true rfl)⟩
  steady verified := by
    obtain ⟨accepted, _⟩ := Crypto.pure_eq_ok.1 verified
    rw [← accepted]
    exact Crypto.returns_pure _

end RatchetMessaging
