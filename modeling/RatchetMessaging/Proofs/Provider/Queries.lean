import RatchetMessaging.Proofs.Ratchet.Reception

/-!
Contract: what a computation asks of a provider, call by call.

Owns:
- `Query`, one call of a primitive with everything that it is given, and `Provider.logging`, which
  does what a provider does and lists its queries, also one that fails, the oldest first;
- `Crypto.Asks`, for a computation over the logging provider that goes as its original over the
  provider itself, and adds to the list only;
- the queries of a chain that advances.

Does not own: what the provider answers.
-/

namespace RatchetMessaging

/-- A call of a primitive, with everything that it is given. -/
inductive Query where
  | randomBytes (size : Nat)
  | x25519Public (secret : FixedBytes 32)
  | x25519Shared (secret peer : FixedBytes 32)
  | ed25519KeyPair (seed : FixedBytes 32)
  | ed25519Sign (keyPair : FixedBytes 64) (message : Bytes)
  | ed25519Verify (key : FixedBytes 32) (message : Bytes) (signature : FixedBytes 64)
  | hkdf (salt : Option Bytes) (material info : Bytes) (size : Nat)
  | hmac (key message : Bytes)
  | aeadEncrypt (key : FixedBytes 32) (nonce : FixedBytes 12) (plaintext associatedData : Bytes)
  | aeadDecrypt (key : FixedBytes 32) (nonce : FixedBytes 12) (ciphertext associatedData : Bytes)
deriving DecidableEq

variable {σ α β : Type}

namespace Crypto

/-- An outcome together with a list of queries. -/
def withQueries (queries : List Query) :
    EStateM.Result Error σ α → EStateM.Result Error (σ × List Query) α
  | .ok value after => .ok value (after, queries)
  | .error failure after => .error failure (after, queries)

/-- Make a call and list its query. -/
def logged (query : Query) (call : Crypto σ α) : Crypto (σ × List Query) α :=
  fun before => withQueries (before.2 ++ [query]) (call before.1)

end Crypto

/-- The provider that lists its queries. -/
def Provider.logging (provider : Provider σ) : Provider (σ × List Query) where
  randomBytes size := .logged (.randomBytes size) (provider.randomBytes size)
  x25519Public secret := .logged (.x25519Public secret) (provider.x25519Public secret)
  x25519Shared secret peer :=
    .logged (.x25519Shared secret peer) (provider.x25519Shared secret peer)
  ed25519KeyPair seed := .logged (.ed25519KeyPair seed) (provider.ed25519KeyPair seed)
  ed25519Sign keyPair message :=
    .logged (.ed25519Sign keyPair message) (provider.ed25519Sign keyPair message)
  ed25519Verify key message signature :=
    .logged (.ed25519Verify key message signature) (provider.ed25519Verify key message signature)
  hkdf salt material info size :=
    .logged (.hkdf salt material info size) (provider.hkdf salt material info size)
  hmac key message := .logged (.hmac key message) (provider.hmac key message)
  aeadEncrypt key nonce plaintext associatedData :=
    .logged (.aeadEncrypt key nonce plaintext associatedData)
      (provider.aeadEncrypt key nonce plaintext associatedData)
  aeadDecrypt key nonce ciphertext associatedData :=
    .logged (.aeadDecrypt key nonce ciphertext associatedData)
      (provider.aeadDecrypt key nonce ciphertext associatedData)

/-! ### Computations that log -/

namespace Crypto

/-- A sequence whose rest makes no call has the queries of its first step. -/
theorem withQueries_bind {logging : Crypto (σ × List Query) α} {plain : Crypto σ α}
    {loggingNext : α → Crypto (σ × List Query) β} {plainNext : α → Crypto σ β} {before : σ}
    {earlier queries : List Query}
    (logs : logging (before, earlier) = withQueries queries (plain before))
    (quiet : ∀ value between,
      loggingNext value (between, queries) = withQueries queries (plainNext value between)) :
    (logging >>= loggingNext) (before, earlier) =
      withQueries queries ((plain >>= plainNext) before) := by
  cases outcome : plain before with
  | ok value between =>
    rw [outcome] at logs
    rw [bind_of_ok logs, bind_of_ok outcome]
    exact quiet value between
  | error failure between =>
    rw [outcome] at logs
    rw [bind_of_error logs, bind_of_error outcome]
    rfl

/-- From every state of the provider the logging computation ends as the plain one does, with the
same value or failure. It adds queries to the list, the same ones whatever is on the list. -/
def Asks (logging : Crypto (σ × List Query) α) (plain : Crypto σ α) : Prop :=
  ∀ before, ∃ queries, ∀ earlier,
    logging (before, earlier) = withQueries (earlier ++ queries) (plain before)

theorem asks_pure (value : α) :
    Asks (pure value : Crypto (σ × List Query) α) (pure value : Crypto σ α) := by
  intro before
  refine ⟨[], fun earlier => ?_⟩
  rw [List.append_nil]
  rfl

theorem asks_throw (failure : Error) :
    Asks (throw failure : Crypto (σ × List Query) α) (throw failure : Crypto σ α) := by
  intro before
  refine ⟨[], fun earlier => ?_⟩
  rw [List.append_nil]
  rfl

theorem asks_ofExcept (check : Except Error α) :
    Asks (ofExcept check : Crypto (σ × List Query) α) (ofExcept check : Crypto σ α) := by
  cases check with
  | ok value => exact asks_pure value
  | error failure => exact asks_throw failure

theorem asks_logged (query : Query) (call : Crypto σ α) : Asks (logged query call) call :=
  fun _ => ⟨[query], fun _ => rfl⟩

/-- The queries of a sequence are those of its first step, and then those of the rest, unless the
first step fails. -/
theorem Asks.bind {logging : Crypto (σ × List Query) α} {plain : Crypto σ α}
    {loggingNext : α → Crypto (σ × List Query) β} {plainNext : α → Crypto σ β}
    (first : Asks logging plain) (next : ∀ value, Asks (loggingNext value) (plainNext value)) :
    Asks (logging >>= loggingNext) (plain >>= plainNext) := by
  intro before
  obtain ⟨queries, asked⟩ := first before
  cases outcome : plain before with
  | ok value between =>
    obtain ⟨more, askedNext⟩ := next value between
    refine ⟨queries ++ more, fun earlier => ?_⟩
    have loggedFirst := asked earlier
    rw [outcome] at loggedFirst
    rw [bind_of_ok loggedFirst, bind_of_ok outcome, askedNext, List.append_assoc]
  | error failure between =>
    refine ⟨queries, fun earlier => ?_⟩
    have loggedFirst := asked earlier
    rw [outcome] at loggedFirst
    rw [bind_of_error loggedFirst, bind_of_error outcome]
    rfl

end Crypto

/-! ### Chains -/

namespace Chain

open Crypto

variable (provider : Provider σ)

theorem asks_advance (chain : Chain) :
    Asks (chain.advance provider.logging) (chain.advance provider) := by
  unfold advance
  split
  · exact asks_throw _
  · refine (asks_logged _ _).bind fun messageKey => ?_
    exact (asks_logged _ _).bind fun nextKey => asks_pure _

theorem asks_advanceBy (count : Nat) (chain : Chain) :
    Asks (chain.advanceBy provider.logging count) (chain.advanceBy provider count) := by
  induction count generalizing chain with
  | zero => exact asks_pure _
  | succ count inductionHypothesis =>
    refine (asks_advance provider chain).bind fun first => ?_
    exact (inductionHypothesis first.2).bind fun rest => asks_pure _

end Chain

end RatchetMessaging
