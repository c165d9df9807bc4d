import RatchetMessaging.Proofs.Messenger.Command
import RatchetMessaging.Proofs.Provider.Transparent

/-!
Contract: a party to run commands with.

Owns: two identities, bundles and hellos of their peers, processes at their start, and one with a
session, all for `Provider.transparent`; the failure of a command, as a value.

Does not own: what any run comes to.
-/

namespace RatchetMessaging

/-- An identity with one one-time pre-key. -/
def Identity.sample : Identity where
  signing := ⟨⟨.replicate 32 1⟩, (FixedBytes.replicate 32 1).append (.replicate 32 1)⟩
  agreement := .sample
  signedPreKey := ⟨1, .sample, ⟨.fit 64 X25519KeyPair.sample.publicKey.toBytes⟩⟩
  oneTimePreKeys := OrderedMap.empty.insert 7 .sample

/-- Another identity, with no one-time pre-key. -/
def Identity.samplePeer : Identity where
  signing := ⟨⟨.replicate 32 2⟩, (FixedBytes.replicate 32 2).append (.replicate 32 2)⟩
  agreement := ⟨⟨.replicate 32 60⟩, .replicate 32 60⟩
  signedPreKey := ⟨1, ⟨⟨.replicate 32 70⟩, .replicate 32 70⟩,
    ⟨.fit 64 (FixedBytes.replicate 32 70).toBytes⟩⟩
  oneTimePreKeys := .empty

/-- The bundle of a peer with no one-time pre-key. -/
def Bundle.sample : Bundle where
  signingKey := ⟨.replicate 32 2⟩
  agreementKey := ⟨.replicate 32 60⟩
  signedPreKeyId := 1
  signedPreKey := ⟨.replicate 32 70⟩
  signature := ⟨.fit 64 (FixedBytes.replicate 32 70).toBytes⟩
  oneTimePreKeys := []
  ephemeralKey := none

/-- The hello of a peer that has used the one-time pre-key of `Identity.sample`. -/
def Hello.sample : Hello where
  signingKey := ⟨.replicate 32 2⟩
  agreementKey := ⟨.replicate 32 60⟩
  ephemeralKey := ⟨.replicate 32 80⟩
  signedPreKeyId := 1
  oneTimePreKeyId := some 7
  ratchetKey := some ⟨.replicate 32 90⟩

/-- The hello of a peer that has drawn the same ephemeral key, and its ratchet key right after. -/
def Hello.samplePeer : Hello := { Hello.sample with ratchetKey := some ⟨.replicate 32 81⟩ }

/-- A process at its start, with a blank volume. -/
def Node.sampleStart (config : Config) : Node Nat where
  volume := {}
  own.messenger.config := config
  own.messenger.identity := .sample
  own.timer := .thirtyYears
  crypto := 1
  clock := 0

/-- A process at its start, with the other identity. The next secret that it draws is the ephemeral
key of `Hello.sample`. -/
def Node.samplePeerStart : Node Nat :=
  { sampleStart {} with own.messenger.identity := .samplePeer, crypto := 80 }

/-- A process at its start that replenishes its one-time pre-keys when one is used. -/
def Node.sampleShortStart : Node Nat :=
  sampleStart { minOneTimePreKeys := 1, oneTimePreKeyCount := 1 }

/-- A process with a session, and a volume that refuses some writes. -/
def Node.sampleConnected (config : Config) (refused : Nat) : Node Nat :=
  { run .transparent [.initiate 1 .sample .never] (.sampleStart config) with
    volume := Volume.failNext refused none false {} }

namespace Command

variable {σ : Type} {provider : Provider σ} {command : Command σ} {node : Node σ}

/-- The failure of a command, if it fails. -/
def failure? (provider : Provider σ) (command : Command σ) (node : Node σ) : Option Error :=
  match command.result provider node with
  | .ok _ _ => none
  | .error failure _ => some failure

theorem result_of_failure? {failure : Error}
    (fails : command.failure? provider node = some failure) :
    command.result provider node = .error failure (command.aftermath provider node) := by
  unfold failure? at fails
  unfold aftermath
  cases outcome : command.result provider node with
  | ok answer after =>
    rw [outcome] at fails
    cases fails
  | error reason after =>
    rw [outcome] at fails
    cases fails
    rfl

end Command

end RatchetMessaging
