import RatchetMessaging.Provider

/-!
Contract: a provider that counts its calls and misbehaves on demand.

Owns: the kinds of misbehaviour, the number of good calls before one sets in, and the
wrapping of any provider.

Does not own: the wrapped primitives.
-/

namespace RatchetMessaging

/-- The names of the primitives. -/
inductive Primitive where
  | random
  | x25519Public
  | x25519Shared
  | ed25519KeyPair
  | ed25519Sign
  | ed25519Verify
  | hkdf
  | hmac
  | aeadEncrypt
  | aeadDecrypt
deriving DecidableEq, Repr

/-- The primitive of a name. -/
def Primitive.ofName? : String → Option Primitive
  | "random" => some .random
  | "x25519_public" => some .x25519Public
  | "x25519_dh" => some .x25519Shared
  | "ed25519_from_seed" => some .ed25519KeyPair
  | "ed25519_sign" => some .ed25519Sign
  | "ed25519_verify" => some .ed25519Verify
  | "hkdf" => some .hkdf
  | "hmac" => some .hmac
  | "aead_seal" => some .aeadEncrypt
  | "aead_open" => some .aeadDecrypt
  | _ => none

/-- A way to misbehave. A way that means nothing for a primitive leaves it alone. -/
inductive FaultMode where
  /-- Fail before doing anything. -/
  | error
  /-- Random bytes are drawn but handed out as zeros. -/
  | zero
  /-- A shared value is replaced by the secret; a plaintext gets one more byte. -/
  | corrupt
  /-- No signature verifies. -/
  | reject
deriving DecidableEq, Repr

/-- The misbehaviour of a name. -/
def FaultMode.ofName? : String → Option FaultMode
  | "error" => some .error
  | "zero" => some .zero
  | "corrupt" => some .corrupt
  | "false" => some .reject
  | _ => none

/-- A misbehaviour and the number of good calls before it. -/
structure Fault where
  primitive : Primitive
  mode : FaultMode
  goodCalls : Nat
deriving DecidableEq, Repr

/-- The state of a wrapped provider. -/
structure Faulty (σ : Type) where
  inner : σ
  faults : List Fault := []
  randomCalls : Nat := 0

namespace Faulty

variable {σ : Type}

/-- Use up one good call of every fault of a primitive. -/
def countCall (primitive : Primitive) (faults : List Fault) : List Fault :=
  faults.map (fun fault =>
    if fault.primitive = primitive then { fault with goodCalls := fault.goodCalls - 1 } else fault)

/-- The misbehaviour due at the next call of a primitive. -/
def due (primitive : Primitive) (faults : List Fault) : Option FaultMode :=
  (faults.find? (fun fault => fault.primitive = primitive && fault.goodCalls = 0)).map
    Fault.mode

/-- Run a call of the wrapped provider. -/
def lift {α : Type} (call : Crypto σ α) : Crypto (Faulty σ) α := fun state =>
  match call state.inner with
  | .ok value inner => .ok value { state with inner := inner }
  | .error failure inner => .error failure { state with inner := inner }

/-- Enter a call: the misbehaviour due now, with the call counted. -/
def enter (primitive : Primitive) : Crypto (Faulty σ) (Option FaultMode) :=
  modifyGet (fun state =>
    (due primitive state.faults,
      { state with faults := countCall primitive state.faults }))

/-- A call that either fails at once or is repaired by `change`. -/
def guarded {α : Type} (primitive : Primitive) (failure : Error) (call : Crypto σ α)
    (change : FaultMode → α → α) : Crypto (Faulty σ) α := do
  match ← enter primitive with
  | none => lift call
  | some .error => throw failure
  | some mode => change mode <$> lift call

/-- The detail of every failure on demand. -/
def injected : String := "injected failure"

/-- Wrap a provider. -/
def wrap (provider : Provider σ) : Provider (Faulty σ) where
  randomBytes size := do
    modify (fun state => { state with randomCalls := state.randomCalls + 1 })
    guarded .random (.keyGeneration injected) (provider.randomBytes size)
      (fun mode bytes => if mode = .zero then .replicate size 0 else bytes)
  x25519Public secret :=
    guarded .x25519Public (.provider injected) (provider.x25519Public secret)
      (fun _ key => key)
  x25519Shared secret peer :=
    guarded .x25519Shared (.provider injected) (provider.x25519Shared secret peer)
      (fun mode shared => if mode = .corrupt then secret else shared)
  ed25519KeyPair seed :=
    guarded .ed25519KeyPair (.provider injected) (provider.ed25519KeyPair seed)
      (fun _ pair => pair)
  ed25519Sign keyPair message :=
    guarded .ed25519Sign (.provider injected) (provider.ed25519Sign keyPair message)
      (fun _ signature => signature)
  ed25519Verify key message signature :=
    guarded .ed25519Verify (.provider injected) (provider.ed25519Verify key message signature)
      (fun mode verified => verified && mode != .reject)
  hkdf salt material info size :=
    guarded .hkdf (.deriveKey injected) (provider.hkdf salt material info size)
      (fun _ derived => derived)
  hmac key message :=
    guarded .hmac (.deriveKey injected) (provider.hmac key message)
      (fun _ digest => digest)
  aeadEncrypt key nonce plaintext associatedData :=
    guarded .aeadEncrypt (.provider injected)
      (provider.aeadEncrypt key nonce plaintext associatedData) (fun _ ciphertext => ciphertext)
  aeadDecrypt key nonce ciphertext associatedData :=
    guarded .aeadDecrypt (.provider injected)
      (provider.aeadDecrypt key nonce ciphertext associatedData)
      (fun mode plaintext => if mode = .corrupt then plaintext ++ [0] else plaintext)

end Faulty

end RatchetMessaging
