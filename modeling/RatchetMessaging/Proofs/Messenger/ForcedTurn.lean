import RatchetMessaging.Proofs.Messenger.AwaitedWrites
import RatchetMessaging.Proofs.Messenger.PendingSave
import RatchetMessaging.Proofs.Messenger.Restart
import RatchetMessaging.Proofs.Messenger.Soundness

/-!
Contract: turns that are asked for without a message, and restarts.

Owns:
- the next message of a session that is to turn, which is the first one under a new key;
- a turn that was asked for survives a flush and a restart if a background save of the connection
  was unfinished when it was asked for, and leaves no trace in the volume if none was.

Does not own: turns that are taken.
-/

namespace RatchetMessaging

variable {σ τ : Type} {provider : Provider σ} {working : Provider τ} {primitives : Primitives}
  {connectionId : UInt32}

/-! ### The next message -/

namespace Connection

variable {connection next : Connection} {state : RatchetState} {message : RatchetMessage}
  {staged : Staged} {plaintext associatedData : Bytes} {before after : σ}

theorem pending_of_forceRatchet (forced : connection.forceRatchet = .ok next) :
    ∃ state, next.phase = .established state ∧ state.sendingRatchetPending = true := by
  obtain ⟨state, established⟩ := established_of_forceRatchet forced
  rw [forceRatchet_eq_ok established forced]
  exact ⟨_, rfl, rfl⟩

/-- A connection that is to turn sends its next message as the first one under a key pair that is
drawn for it. -/
theorem stageEncrypt_of_pending (established : connection.phase = .established state)
    (pending : state.sendingRatchetPending = true)
    (encrypted : connection.stageEncrypt provider plaintext associatedData before =
      .ok (message, staged) after) :
    message.header.chainIndex = 0 ∧
      (∃ keyPair drawn, X25519KeyPair.generate provider before = .ok keyPair drawn ∧
        message.header.ratchetKey = keyPair.publicKey) ∧
      (staged.resulting state).ratchetSteps = state.ratchetSteps + 1 := by
  obtain ⟨_, source, chain, moved, messageKey, middle, _, isState, sends, isChain, advanced, _,
    header, _, changed⟩ := stageEncrypt_eq_ok encrypted
  cases established.symm.trans isState
  cases sends with
  | same notDue => simp [needsTurn, pending] at notDue
  | turned due turns =>
    obtain ⟨_, keyPair, _, _, chainKey, drawn, _, _, generated, _, _, rfl⟩ :=
      RatchetState.sendingTurn_eq_ok turns
    cases isChain
    rw [header, changed]
    exact ⟨(Chain.advance_eq_ok advanced).2.1, ⟨keyPair, drawn, generated, rfl⟩, rfl⟩

end Connection

namespace Node

variable {node other : Node σ} {live : LiveConnection}

/-- The next message of the session, if one is sent, starts a new chain: it is the first one under a
key pair that the provider has just drawn. -/
def TurnsNext (provider : Provider σ) (connectionId : UInt32) (node : Node σ) : Prop :=
  ∀ plaintext associatedData signal message after,
    encrypt provider connectionId plaintext associatedData signal node = .ok message after →
      message.header.chainIndex = 0 ∧
        (∃ keyPair drawn, X25519KeyPair.generate provider node.crypto = .ok keyPair drawn ∧
          message.header.ratchetKey = keyPair.publicKey) ∧
        after.ratchetSteps? connectionId = (node.ratchetSteps? connectionId).map (· + 1)

/-- The session sends the same messages at both nodes. -/
def SendsAlike (provider : Provider σ) (connectionId : UInt32) (node other : Node σ) : Prop :=
  ∀ plaintext associatedData message,
    (∃ after, encrypt provider connectionId plaintext associatedData .never node =
      .ok message after) ↔
    ∃ after, encrypt provider connectionId plaintext associatedData .never other =
      .ok message after

theorem turnsNext_of_pending {state : RatchetState}
    (isLive : node.own.messenger.connections.find? connectionId = some live)
    (established : live.connection.phase = .established state)
    (pending : state.sendingRatchetPending = true) : node.TurnsNext provider connectionId := by
  intro plaintext associatedData signal message after encrypted
  obtain ⟨_, staged, _, _, isLiveToo, isStaged, _, establishedToo, stepsBefore, stepsAfter⟩ :=
    encrypt_eq_ok encrypted
  cases isLive.symm.trans isLiveToo
  cases established.symm.trans establishedToo
  obtain ⟨first, drawn, steps⟩ := Connection.stageEncrypt_of_pending established pending isStaged
  refine ⟨first, drawn, ?_⟩
  rw [stepsAfter, stepsBefore, steps]
  rfl

/-- At a volume that accepts its writes the message of a session is the one that is staged. -/
theorem encrypt_iff_staged
    (accepts : ∀ writes, node.volume.writeFault writes (.connection connectionId) = none)
    (isLive : node.own.messenger.connections.find? connectionId = some live)
    {plaintext associatedData : Bytes} {message : RatchetMessage} :
    (∃ after, encrypt provider connectionId plaintext associatedData .never node =
      .ok message after) ↔
    ∃ staged crypto, live.connection.stageEncrypt provider plaintext associatedData node.crypto =
      .ok (message, staged) crypto := by
  constructor
  · rintro ⟨after, encrypted⟩
    obtain ⟨_, staged, crypto, _, isLiveToo, isStaged, _⟩ := encrypt_eq_ok encrypted
    cases isLive.symm.trans isLiveToo
    exact ⟨staged, crypto, isStaged⟩
  · rintro ⟨staged, crypto, isStaged⟩
    obtain ⟨after, settled⟩ := settle_succeeds { node with crypto := crypto } accepts live staged
    refine ⟨after, ?_⟩
    rw [encrypt_eq_exchange, exchange_of_staged (Messenger.session_eq_ok.2 isLive) isStaged,
      Crypto.bind_of_ok settled]
    rfl

theorem sendsAlike_of_live {otherLive : LiveConnection}
    (accepts : ∀ writes, node.volume.writeFault writes (.connection connectionId) = none)
    (sameVolume : other.volume = node.volume) (sameCrypto : other.crypto = node.crypto)
    (isLive : node.own.messenger.connections.find? connectionId = some live)
    (isOther : other.own.messenger.connections.find? connectionId = some otherLive)
    (sameConnection : otherLive.connection = live.connection) :
    node.SendsAlike provider connectionId other := by
  intro plaintext associatedData message
  rw [encrypt_iff_staged accepts isLive, encrypt_iff_staged (sameVolume ▸ accepts) isOther,
    sameConnection, sameCrypto]

end Node

/-! ### The volume after a flush -/

namespace Site.Sound

variable {site later : Site} {limits : RatchetLimits} {live : LiveConnection}

/-- Unless a save of a live connection is unfinished, its record stays. -/
theorem find?_of_lapses (sound : site.Sound working limits) (lapses : site.Lapses later)
    (isLive : site.own.messenger.connections.find? connectionId = some live)
    (saved : ∀ save, site.own.saves.find? connectionId = some save → save.serial ≠ live.serial) :
    later.volume.find? (.connection connectionId) =
      site.volume.find? (.connection connectionId) := by
  obtain same | ⟨record, _, process, member, save, pending, isRecord⟩ :=
    lapses.writesAwaited.record connectionId
  · exact same
  · exfalso
    obtain rfl | isOther := List.mem_cons.1 member
    · obtain retries | ⟨_, other, _, isOther, ofOther, _⟩ := Process.recordOf_eq_some isRecord
      · rw [sound.waiting connectionId save pending] at retries
        cases retries
      · cases isLive.symm.trans isOther
        exact saved save pending ofOther.symm
    · rw [sound.working.alone process isOther] at pending
      cases pending

end Site.Sound

theorem Node.Starts.sound {start : Node σ} (starts : start.Starts provider) :
    start.toSite.Sound working start.own.messenger.config.ratchetLimits where
  working := starts.working
  loads := starts.loads
  settings := rfl
  waiting connectionId save pending := by
    rw [starts.idle] at pending
    cases pending
  portable connectionId live isLive := by
    rw [starts.unconnected] at isLive
    cases isLive

/-! ### Restarts -/

namespace Node

/-- Whatever process starts from the volume of a node, it restores the session. Its next message
starts a new chain, and it sends the messages that a process sends which goes on at the node. -/
def TurnsAfterRestart (working : Provider τ) (connectionId : UInt32) (node : Node σ) : Prop :=
  ∀ crypto party ready,
    Messenger.restart working node.own.messenger.config node.volume crypto = .ok party ready →
      ∀ fresh : Node τ, fresh.volume = node.volume →
        fresh.own = { messenger := party, timer := node.own.timer } →
        ∃ restored, restoreSession working connectionId fresh = .ok () restored ∧
          restored.TurnsNext working connectionId ∧
          ∀ here : Node τ, here.own.messenger = node.own.messenger →
            here.volume = node.volume → here.crypto = restored.crypto →
              here.SendsAlike working connectionId restored

/-- A process starts from the volume of a node, unless the provider fails its self-test once the
identity is read. -/
def Restarts (working : Provider τ) (node : Node σ) : Prop :=
  ∀ crypto, ∃ record identity read, node.volume.find? .identity = some (.ofIdentity record) ∧
    Identity.ofRecord working record crypto = .ok identity read ∧
    ∀ ready, working.selfTest read = .ok () ready →
      ∃ party,
        Messenger.restart working node.own.messenger.config node.volume crypto = .ok party ready

theorem turnsAfterRestart_of_stored {node : Node σ} {limits : RatchetLimits}
    {live : LiveConnection} {state : RatchetState} {record : Record.ConnectionRecord}
    (sound : node.toSite.Sound working limits)
    (isLive : node.own.messenger.connections.find? connectionId = some live)
    (established : live.connection.phase = .established state)
    (pending : state.sendingRatchetPending = true)
    (exported : live.connection.exportRecord = .ok record)
    (stored : node.volume.find? (.connection connectionId) = some (.ofConnection record)) :
    node.TurnsAfterRestart working connectionId := by
  intro crypto party ready restarted fresh sameVolume isFresh
  obtain ⟨_, _, _, _, _, _, _, _, rfl⟩ := Messenger.restart_eq_ok restarted
  have restores : node.volume.Restores working limits connectionId live.connection :=
    Volume.restores_of_exports sound.loads stored
      ⟨sound.portable connectionId live isLive, record, exported, rfl⟩
  have settings : fresh.own.messenger.config.ratchetLimits = limits := by
    rw [isFresh]
    exact sound.settings
  rw [← sameVolume, ← settings] at restores
  obtain ⟨later, restored⟩ := restoreSession_of_restores restores
  refine ⟨_, restored, ?_, fun here sameParty hereVolume hereCrypto => ?_⟩
  · exact turnsNext_of_pending (OrderedMap.find?_insert_self _ _ _) established pending
  · have hereLive : here.own.messenger.connections.find? connectionId = some live := by
      rw [sameParty]
      exact isLive
    refine sendsAlike_of_live (fun writes => ?_) (sameVolume.trans hereVolume.symm)
      hereCrypto.symm hereLive (OrderedMap.find?_insert_self _ _ _) rfl
    rw [hereVolume]
    exact sound.working.accepts writes _

theorem restarts_of_identityStored {node : Node σ} {limits : RatchetLimits}
    (agreeing : working.Agreeing primitives) (vouching : working.Vouching)
    (valid : node.own.messenger.config.validate = .ok ())
    (genuine : node.own.messenger.identity.Genuine working primitives)
    (sound : node.toSite.Sound working limits) (isStored : node.toSite.IdentityStored) :
    node.Restarts working := by
  intro crypto
  obtain ⟨read, reads⟩ := genuine.returns_ofRecord agreeing vouching isStored.live crypto
  exact ⟨_, _, read, isStored.stored, reads, fun ready passed =>
    ⟨_, Messenger.restart_of_stored valid sound.loads isStored.stored reads passed⟩⟩

end Node

/-- **What becomes of a turn that is asked for.** A party has run any commands on a volume that
takes every write and gives every record back; its provider and its callers may have failed it at
any moment. Then a turn is asked for on a live connection. The flush that follows succeeds, and the
next message of the same process starts a new chain. If a background save of the connection was
unfinished when the turn was asked for, a process that starts from the volume restores the
connection and does the same. If none was, the flush leaves the record of the connection as it was
before, and the turn is forgotten. A process can start, once an identity was stored. -/
theorem forced_turn_survives_with_unfinished_save
    (imitates : provider.Imitates working primitives) (agreeing : working.Agreeing primitives)
    {start before after : Node σ} (starts : start.Starts provider) (commands : List (Command σ))
    (reached : before.toSite = (run provider commands start).toSite)
    (forced : Node.forceRatchet connectionId before = .ok () after) :
    ∃ live flushed, after.own.messenger.connections.find? connectionId = some live ∧
      Node.flush after = .ok () flushed ∧ flushed.own.messenger = after.own.messenger ∧
      (∀ here : Node τ, here.own.messenger = flushed.own.messenger →
        here.TurnsNext working connectionId) ∧
      ((∃ save, before.own.saves.find? connectionId = some save ∧ save.serial = live.serial) →
        flushed.TurnsAfterRestart working connectionId) ∧
      ((∀ save, before.own.saves.find? connectionId = some save → save.serial ≠ live.serial) →
        flushed.volume.find? (.connection connectionId) =
          before.volume.find? (.connection connectionId)) ∧
      (working.Vouching → (∃ event ∈ trace provider commands start, event.storesIdentity = true) →
        flushed.Restarts working) := by
  have soundBefore : before.toSite.Sound working start.own.messenger.config.ratchetLimits := by
    rw [reached]
    exact run_sound imitates agreeing commands starts.made starts.sound
  have sound := ((Node.keeps_sound_forceRatchet connectionId).of_ok soundBefore forced).1
  have forces := Node.forceRatchet_moves_of_ok provider forced
  obtain ⟨old, connection, _, isForced, isAfter⟩ := Node.forceRatchet_eq_ok forced
  obtain ⟨state, established, pending⟩ := Connection.pending_of_forceRatchet isForced
  obtain ⟨flushed, flushes, lapses, _⟩ := Node.flush_ends sound.working
  have isLive : after.own.messenger.connections.find? connectionId =
      some { old with connection := connection } := by
    rw [isAfter]
    exact OrderedMap.find?_insert_self _ _ _
  have isLiveStill : flushed.own.messenger.connections.find? connectionId =
      some { old with connection := connection } := by
    rw [lapses.messenger]
    exact isLive
  have sameSaves : after.own.saves = before.own.saves := by rw [isAfter]
  have sameVolume : after.volume = before.volume := by rw [isAfter]
  rw [← sameSaves, ← sameVolume]
  refine ⟨_, flushed, isLive, flushes, lapses.messenger, fun here sameParty => ?_,
    fun ⟨save, unfinished, ofLive⟩ => ?_, sound.find?_of_lapses lapses isLive,
    fun vouching stores => ?_⟩
  · have isLiveHere : here.own.messenger.connections.find? connectionId =
        some { old with connection := connection } := by
      rw [sameParty]
      exact isLiveStill
    exact Node.turnsNext_of_pending isLiveHere established pending
  · have exported := Connection.exportRecord_of_established established
    have isRecord := Process.recordOf_of_waiting (sound.waiting connectionId save unfinished) isLive
      ofLive exported
    obtain ⟨_, flushesToo, _, stored⟩ :=
      Node.flush_stores sound.working (.inl ⟨save, unfinished, isRecord⟩)
    cases flushes.symm.trans flushesToo
    exact Node.turnsAfterRestart_of_stored (sound.lapses lapses) isLiveStill established pending
      exported stored
  · have moves : Moves provider start.toSite (trace provider commands start) flushed.toSite :=
      ((reached ▸ run_moves provider commands start).andThen forces).andThen (.of_lapses lapses)
    have made : Identity.Made provider before.toSite.own.messenger.identity := by
      rw [reached]
      exact run_made commands starts.made
    have sameIdentity : flushed.own.messenger.identity = before.own.messenger.identity := by
      rw [lapses.messenger, isAfter]
      rfl
    rw [← sameIdentity] at made
    exact Node.restarts_of_identityStored agreeing vouching (moves.config ▸ starts.valid)
      (made.genuine_of_imitates imitates) (sound.lapses lapses)
      (identityStored_of_moves starts.valid moves stores)

/-- An initiator that has stored its identity and sent a message, whose save is still to come. -/
def Node.sampleSent : Node Nat :=
  run .transparent [.saveIdentity .never, .initiate 1 .sample .never, .encrypt 1 [7] [] .never]
    (.sampleStart {})

/-- A turn is asked for, and the process flushed. The next process starts from the volume, restores
the session and sends a message. -/
def Node.sampleReopening : Operation Nat RatchetMessage := do
  forceRatchet 1
  flush
  let party ← calling (Messenger.restart .transparent {} (← get).volume)
  modify (fun node => { node with own := { messenger := party, timer := node.own.timer } })
  restoreSession .transparent 1
  encrypt .transparent 1 [8] [] .never

theorem Node.sampleReopening_eq_ok {before last : Node Nat} {message : RatchetMessage}
    (reopens : sampleReopening before = .ok message last) :
    ∃ after flushed party ready restored,
      forceRatchet 1 before = .ok () after ∧ flush after = .ok () flushed ∧
      Messenger.restart .transparent {} flushed.volume flushed.crypto = .ok party ready ∧
      restoreSession .transparent 1
        { flushed with
          own := { messenger := party, timer := flushed.own.timer }
          crypto := ready } = .ok () restored ∧
      encrypt .transparent 1 [8] [] .never restored = .ok message last := by
  simp only [sampleReopening, Crypto.bind_eq_ok, get_eq_ok, calling_eq_ok] at reopens
  obtain ⟨_, after, forced, _, flushed, flushes, _, _, ⟨rfl, rfl⟩, party, _,
    ⟨ready, restarted, rfl⟩, _, _, ⟨⟩, _, restored, restores, encrypted⟩ := reopens
  exact ⟨after, _, party, ready, restored, forced, flushes, restarted, restores, encrypted⟩

/-- The save of the first message stores the turn that was asked for after it. The message that the
next process sends is the first one under a new key. -/
theorem forced_turn_survives_with_unfinished_save_sample :
    ∃ after flushed party ready restored message last,
      Node.forceRatchet 1 Node.sampleSent = .ok () after ∧ Node.flush after = .ok () flushed ∧
      Messenger.restart .transparent {} flushed.volume flushed.crypto = .ok party ready ∧
      Node.restoreSession .transparent 1
        { flushed with
          own := { messenger := party, timer := flushed.own.timer }
          crypto := ready } = .ok () restored ∧
      Node.encrypt .transparent 1 [8] [] .never restored = .ok message last ∧
      message.header.chainIndex = 0 ∧
      last.ratchetSteps? 1 = (restored.ratchetSteps? 1).map (· + 1) := by
  have succeeds : (Crypto.value? Node.sampleReopening Node.sampleSent).isSome = true := by
    decide +kernel
  have serials : (Node.sampleSent.own.saves.find? 1).map BackgroundSave.serial = some 0 ∧
      (Node.sampleSent.own.messenger.connections.find? 1).map LiveConnection.serial = some 0 := by
    decide +kernel
  have settings : Node.sampleSent.own.messenger.config = {} := run_config .transparent _ _
  have starts : (Node.sampleStart {}).Starts .transparent :=
    Node.sampleStart_starts (by decide +kernel) .empty
  obtain ⟨message, isMessage⟩ := Option.isSome_iff_exists.1 succeeds
  obtain ⟨last, reopens⟩ := Crypto.eq_ok_of_value? isMessage
  obtain ⟨after, flushed, party, ready, restored, forced, flushes, restarted, restores,
    encrypted⟩ :=
    Node.sampleReopening_eq_ok reopens
  obtain ⟨live, _, isLive, flushesToo, sameParty, _, survives, _⟩ :=
    forced_turn_survives_with_unfinished_save Provider.transparent_agreeing.imitates
      Provider.transparent_agreeing starts
      [.saveIdentity .never, .initiate 1 .sample .never, .encrypt 1 [7] [] .never] rfl forced
  cases flushes.symm.trans flushesToo
  have unfinished : ∃ save, Node.sampleSent.own.saves.find? 1 = some save ∧
      save.serial = live.serial := by
    obtain ⟨save, isSave, ofSave⟩ := Option.map_eq_some_iff.1 serials.1
    obtain ⟨old, isOld, ofOld⟩ := Option.map_eq_some_iff.1 serials.2
    obtain ⟨_, _, isOldToo, _, rfl⟩ := Node.forceRatchet_eq_ok forced
    cases isOld.symm.trans isOldToo
    cases (OrderedMap.find?_insert_self _ _ _).symm.trans isLive
    exact ⟨save, isSave, ofSave.trans ofOld.symm⟩
  have sameConfig : flushed.own.messenger.config = {} := by
    rw [sameParty]
    exact (Node.forceRatchet_moves_of_ok .transparent forced).config.trans settings
  let fresh : Node Nat :=
    { flushed with own := { messenger := party, timer := flushed.own.timer }, crypto := ready }
  obtain ⟨_, restoresToo, turns, _⟩ :=
    survives unfinished _ _ _ (sameConfig ▸ restarted) fresh rfl rfl
  cases restores.symm.trans restoresToo
  obtain ⟨first, _, steps⟩ := turns _ _ _ _ _ encrypted
  exact ⟨after, flushed, party, ready, restored, message, last, forced, flushes, restarted,
    restores, encrypted, first, steps⟩

/-- The first message has been saved when a turn is asked for. The message that the next process
sends is the second one under the old key. -/
theorem forced_turn_is_forgotten :
    ∃ after flushed party ready restored message last record,
      (run .transparent [.flush] Node.sampleSent).toSite.liveRecord? 1 = some record ∧
      Node.forceRatchet 1 (run .transparent [.flush] Node.sampleSent) = .ok () after ∧
      Node.flush after = .ok () flushed ∧
      Messenger.restart .transparent {} flushed.volume flushed.crypto = .ok party ready ∧
      Node.restoreSession .transparent 1
        { flushed with
          own := { messenger := party, timer := flushed.own.timer }
          crypto := ready } = .ok () restored ∧
      Node.encrypt .transparent 1 [8] [] .never restored = .ok message last ∧
      message.header.chainIndex = 1 ∧ message.header.ratchetKey.toBytes = record.dhPublic := by
  have shows : (Crypto.value? Node.sampleReopening (run .transparent [.flush] Node.sampleSent)).map
      (fun message => (message.header.chainIndex, some message.header.ratchetKey.toBytes)) =
    some (1, ((run .transparent [.flush] Node.sampleSent).toSite.liveRecord? 1).map
      Record.ConnectionRecord.dhPublic) := by
    decide +kernel
  obtain ⟨message, isMessage, same⟩ := Option.map_eq_some_iff.1 shows
  obtain ⟨index, key⟩ := Prod.mk.inj same
  obtain ⟨record, isRecord, isKey⟩ := Option.map_eq_some_iff.1 key.symm
  obtain ⟨last, reopens⟩ := Crypto.eq_ok_of_value? isMessage
  obtain ⟨after, flushed, party, ready, restored, forced, flushes, restarted, restores,
    encrypted⟩ :=
    Node.sampleReopening_eq_ok reopens
  exact ⟨after, flushed, party, ready, restored, message, last, record, isRecord, forced, flushes,
    restarted, restores, encrypted, index, isKey.symm⟩

end RatchetMessaging
