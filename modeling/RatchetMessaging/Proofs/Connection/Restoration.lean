import RatchetMessaging.Proofs.Connection.Consistency
import RatchetMessaging.Proofs.Ratchet.Restoration
import RatchetMessaging.Proofs.Record

/-!
Contract: exporting a connection and importing it are inverse to each other.

Owns:
- `Sided`: chains have the directions of their places and the own key pair belongs together, which
  every message and every turn keeps;
- runs of a session with one provider under the limits of its start, exports and imports included;
- what is imported of an export, and what is exported of an import.

Does not own: imports under other limits than those of the export.
-/

namespace RatchetMessaging

variable {σ τ : Type} {provider : Provider σ} {working : Provider τ} {before after : σ}

/-! ### Directions -/

namespace Chain

theorem kind_of_advance {chain next : Chain} {messageKey : MessageKey}
    (advanced : chain.advance provider before = .ok (messageKey, next) after) :
    next.kind = chain.kind := by
  unfold advance at advanced
  split at advanced
  · simp only [Crypto.bind_eq_ok, Crypto.throw_ne_ok, false_and, exists_false] at advanced
  · simp only [Crypto.bind_eq_ok, Crypto.pure_eq_ok] at advanced
    obtain ⟨_, _, _, _, _, _, same, _⟩ := advanced
    cases same
    rfl

theorem kind_of_advanceBy {count : Nat} {chain next : Chain} {messageKeys : List MessageKey}
    (advanced : chain.advanceBy provider count before = .ok (messageKeys, next) after) :
    next.kind = chain.kind := by
  induction count generalizing chain messageKeys before with
  | zero =>
    simp only [advanceBy, Crypto.pure_eq_ok, Prod.mk.injEq] at advanced
    rw [advanced.1.2]
  | succ count inductionHypothesis =>
    simp only [advanceBy, Crypto.bind_eq_ok, Crypto.pure_eq_ok, Prod.exists,
      Prod.mk.injEq] at advanced
    obtain ⟨_, _, _, firstStep, _, _, _, otherSteps, ⟨_, rfl⟩, rfl⟩ := advanced
    rw [inductionHypothesis otherSteps, kind_of_advance firstStep]

end Chain

namespace RatchetState

variable {limits : RatchetLimits} {state result : RatchetState}

namespace Sided

theorem initial (repeats : working.Repeats provider) {seed : SessionSeed}
    (own : ∀ pair, seed.localRatchetKey = some pair → pair.Matches working)
    (seeded : ofSeed provider limits seed before = .ok state after) : state.Sided working := by
  obtain ⟨_, _, _, _,
    ⟨_, _, keyPair, generated, rfl⟩ | ⟨_, _, keyPair, isOwn, rfl⟩⟩ := ofSeed_eq_ok seeded
  · refine ⟨?_, fun _ impossible => (nomatch impossible),
      X25519KeyPair.matches_of_generate repeats generated⟩
    rintro _ ⟨⟩
    rfl
  · refine ⟨fun _ impossible => (nomatch impossible), ?_, own keyPair isOwn⟩
    rintro _ ⟨⟩
    rfl

theorem skipping (sided : state.Sided working) {limit : UInt32}
    (skipped : skipReceivingUntil provider limits limit state before = .ok result after) :
    result.Sided working := by
  rcases skipReceivingUntil_eq_ok skipped with
    ⟨rfl, _⟩ | ⟨chain, _, _, isChain, _, _, advanced, rfl⟩
  · exact sided
  · refine { sided with receiving := ?_ }
    rintro _ ⟨⟩
    rw [Chain.kind_of_advanceBy advanced]
    exact sided.receiving chain isChain

theorem receive (sided : state.Sided working) {index : UInt32} {key : FixedBytes 32}
    (received : state.receive provider limits index before = .ok (key, result) after) :
    result.Sided working := by
  rcases receive_eq_ok received with
    ⟨_, _, _, _, rfl⟩ | ⟨chain, _, _, _, _, _, isChain, _, _, passed, advanced, _, rfl⟩
  · exact { sided with }
  · refine { sided with receiving := ?_ }
    rintro _ ⟨⟩
    rw [Chain.kind_of_advance advanced, Chain.kind_of_advanceBy passed]
    exact sided.receiving chain isChain

theorem receivingTurn (sided : state.Sided working) {header : MessageHeader}
    (turned : state.receivingTurn provider limits header before = .ok result after) :
    result.Sided working := by
  obtain ⟨passed, _, _, _, _, _, skipped, _, _, _, rfl⟩ := receivingTurn_eq_ok turned
  have sidedPassed := sided.skipping skipped
  obtain ⟨_, _, _, superseded⟩ := supersede_eq limits passed
  rw [superseded]
  refine ⟨sidedPassed.sending, ?_, sidedPassed.keyPair⟩
  rintro _ ⟨⟩
  rfl

theorem sendingTurn (repeats : working.Repeats provider) (sided : state.Sided working)
    (turned : state.sendingTurn provider before = .ok result after) : result.Sided working := by
  obtain ⟨_, _, _, _, _, _, _, _, generated, _, _, rfl⟩ := sendingTurn_eq_ok turned
  refine ⟨?_, sided.receiving, X25519KeyPair.matches_of_generate repeats generated⟩
  rintro _ ⟨⟩
  rfl

end Sided

end RatchetState

/-! ### One step -/

namespace Connection

variable {limits : RatchetLimits} {state : RatchetState} {connection : Connection}

theorem Route.sided {header : MessageHeader} {key : FixedBytes 32} {generation : UInt32}
    {received : RatchetState}
    (route : Route provider limits state header before after key generation received)
    (sided : state.Sided working) : received.Sided working := by
  cases route with
  | late placed cached => exact { sided with }
  | present placed receives =>
    have learnt : RatchetState.Sided working { state with remoteKey := some header.ratchetKey } :=
      { sided with }
    exact learnt.receive receives
  | turn placed turns receives => exact (sided.receivingTurn turns).receive receives

theorem Performs.sided (repeats : working.Repeats provider) {request : Request}
    {accepted : Option Acceptance} {result : RatchetState}
    (performs : Performs provider connection state request accepted limits result)
    (keeps : request.keepsLimits = true) (sided : state.Sided working) :
    result.Sided working := by
  cases performs with
  | @sent _ _ _ _ _ source chain _ _ sends isChain advanced =>
    have sidedSource : source.Sided working := by
      cases sends with
      | same notDue => exact sided
      | turned due turns => exact sided.sendingTurn repeats turns
    refine { sidedSource with sending := ?_ }
    rintro _ ⟨⟩
    rw [Chain.kind_of_advance advanced]
    exact sidedSource.sending chain isChain
  | forced => exact { sided with }
  | read route => exact { route.sided sided with }
  | restored reads => cases keeps

end Connection

/-! ### Runs -/

/-- The request names no limits but the given ones. -/
def Request.Under (limits : RatchetLimits) : Request → Prop
  | .restore other => other = limits
  | _ => True

namespace Connection

variable {first last fresh : Connection} {state : RatchetState} {seed : SessionSeed}

/-- A run of requests with one provider under the limits of the start: messages, requested turns,
and exports that are imported again. -/
inductive Continues (provider : Provider σ) (first : Connection) : Connection → Prop
  | start : Continues provider first first
  | step {middle : Connection} (run : Continues provider first middle) (request : Request)
      (under : request.Under first.limits) (before : σ) :
      Continues provider first (middle.attempt provider request before).connection

/-- Importing an export gives the same connection, from every state of the provider. -/
theorem returns_ofRecord_export {limits : RatchetLimits} {connectionId : UInt32}
    (importable : state.Importable provider limits) :
    Crypto.Returns (ofRecord provider limits (state.toRecord connectionId))
      ⟨connectionId, limits, .established state⟩ :=
  (importable.ofRecord_toRecord connectionId).bind (Crypto.returns_pure _)

/-- Everything that a run keeps of a state. -/
structure Kept (provider : Provider σ) (limits : RatchetLimits) (state : RatchetState) : Prop where
  tables : state.Tables limits
  memory : state.replay.Bounded limits.replayWindow limits.maxTrackedGenerations
  sided : state.Sided provider

theorem Kept.importable {limits : RatchetLimits} (kept : Kept provider limits state) :
    state.Importable provider limits :=
  { kept.sided with
    retired := kept.tables.retiredFit
    coherent := kept.tables.coherent
    capacity := kept.tables.capacity
    width := kept.memory.width
    count := kept.memory.count }

theorem attempt_kept (steady : provider.SteadyKeys) {connection : Connection}
    (isState : connection.phase = .established state)
    (kept : Kept provider connection.limits state) {request : Request}
    (under : request.Under connection.limits) (before : σ) :
    ∃ result, (connection.attempt provider request before).connection =
        { connection with phase := .established result } ∧
      Kept provider connection.limits result := by
  rcases attempt_cases isState provider request before with
    ⟨same, _⟩ | ⟨accepted, limits, result, isNext, _, performs⟩
  · refine ⟨state, ?_, kept⟩
    rw [same, ← isState]
  · by_cases keeps : request.keepsLimits = true
    · obtain ⟨rfl, tables, _, memory⟩ := performs.tables keeps kept.tables
      exact ⟨result, isNext, tables, memory ▸ bounded_remembering kept.memory accepted,
        performs.sided steady.repeats keeps kept.sided⟩
    · cases performs with
      | restored reads =>
        -- What is imported is what was exported.
        cases (show limits = connection.limits from under)
        cases (kept.importable.ofRecord_toRecord _).eq_of_ok reads
        exact ⟨_, isNext, kept⟩
      | sent _ _ _ => exact absurd rfl keeps
      | forced => exact absurd rfl keeps
      | read _ => exact absurd rfl keeps

theorem Continues.kept (steady : provider.SteadyKeys) (run : Continues provider first last)
    {start : RatchetState} (isStart : first.phase = .established start)
    (kept : Kept provider first.limits start) :
    ∃ state, last = { first with phase := .established state } ∧
      Kept provider first.limits state := by
  induction run with
  | start => exact ⟨start, by rw [← isStart], kept⟩
  | step _ request under before inductionHypothesis =>
    obtain ⟨state, rfl, keptState⟩ := inductionHypothesis
    have isState : Connection.phase { first with phase := .established state } =
      .established state := rfl
    exact attempt_kept steady isState keptState under before

/-- The first state of a session is kept. -/
theorem kept_of_repeats (repeats : working.Repeats provider) {limits : RatchetLimits}
    (own : ∀ pair, seed.localRatchetKey = some pair → pair.Matches working)
    (seeded : RatchetState.ofSeed provider limits seed before = .ok state after) :
    Kept working limits state := by
  obtain ⟨tables, remembersNothing⟩ := RatchetState.tables_of_ofSeed seeded
  exact ⟨tables, remembersNothing ▸ ReplayWindow.bounded_new _ _,
    RatchetState.Sided.initial repeats own seeded⟩

theorem kept_of_ofSeed (steady : provider.SteadyKeys) {limits : RatchetLimits}
    (own : ∀ pair, seed.localRatchetKey = some pair → pair.Matches provider)
    (seeded : RatchetState.ofSeed provider limits seed before = .ok state after) :
    Kept provider limits state :=
  kept_of_repeats steady.repeats own seeded

/-- Export and import are inverse. With a provider that computes the same public key again, every
connection that a session reaches under its limits is imported of its export as it was, also when
the record goes through its bytes; and what is imported of any record, under any limits, is
imported of its own export as it is, so that its next export is the same record. -/
theorem import_export_inverse (steady : provider.SteadyKeys) :
    (∀ {seed : SessionSeed} {fresh first last : Connection} {before after : σ},
      (∀ pair, seed.localRatchetKey = some pair → pair.Matches provider) →
      fresh.establish provider seed before = .ok first after → Continues provider first last →
      ∃ record, last.exportRecord = .ok record ∧
        Crypto.Returns (ofRecord provider fresh.limits record) last ∧
        ((Record.SessionRecord.ofConnection record).encode.length < 2 ^ 64 →
          Record.SessionRecord.decode (Record.SessionRecord.ofConnection record).encode =
            .ok (.ofConnection record))) ∧
    (∀ {limits : RatchetLimits} {record : Record.ConnectionRecord} {imported : Connection}
      {before after : σ}, ofRecord provider limits record before = .ok imported after →
      ∃ exported, imported.exportRecord = .ok exported ∧
        ∀ other, ∃ again otherAfter,
          ofRecord provider limits exported other = .ok again otherAfter ∧ again = imported ∧
          again.exportRecord = .ok exported) := by
  constructor
  · intro seed fresh first last before after own established run
    obtain ⟨start, seeded, rfl⟩ := establish_eq_ok established
    obtain ⟨state, rfl, kept⟩ := run.kept steady rfl (kept_of_ofSeed steady own seeded)
    exact ⟨_, rfl, returns_ofRecord_export kept.importable,
      Record.SessionRecord.decode_encode rfl⟩
  · intro limits record imported before after read
    simp only [ofRecord, Crypto.bind_eq_ok, Crypto.pure_eq_ok] at read
    obtain ⟨state, _, isState, rfl, _⟩ := read
    refine ⟨_, rfl, fun other => ?_⟩
    obtain ⟨otherAfter, again⟩ :=
      returns_ofRecord_export (RatchetState.importable_of_ofRecord steady isState) other
    exact ⟨_, otherAfter, again, rfl, rfl⟩

/-- The second message arrives first, so that the key of the first is cached. The export of this
connection is imported as it was; without room for the key it is imported with an export of its
own, which then stays. -/
theorem import_export_inverse_sample :
    ∃ (first last imported : Connection) (record exported : Record.ConnectionRecord),
      (∃ after, (new 2 (.sample 100)).establish .transparent .samplePeer 0 = .ok first after) ∧
      Continues .transparent first last ∧
      last.exportRecord = .ok record ∧ record.skippedKeys.length = 1 ∧
      Crypto.Returns (ofRecord .transparent (.sample 100) record) last ∧
      Record.SessionRecord.decode (Record.SessionRecord.ofConnection record).encode =
        .ok (.ofConnection record) ∧
      (∃ after, ofRecord .transparent ⟨8, 0, 8, 4, 100⟩ record 0 = .ok imported after) ∧
      imported.exportRecord = .ok exported ∧ exported.skippedKeys = [] ∧
      Crypto.Returns (ofRecord .transparent ⟨8, 0, 8, 4, 100⟩ exported) imported := by
  have steady : Provider.transparent.SteadyKeys := fun _ => Crypto.steady_pure _ _
  obtain ⟨inverse, normal⟩ := import_export_inverse steady
  obtain ⟨first, _, _, message, _, _, established, _, _, cached, reads⟩ :
      ∃ (first sender : Connection) (moved : RatchetMessage × Connection)
        (message : RatchetMessage) (begun ready : Nat),
        (new 2 (.sample 100)).establish .transparent .samplePeer 0 = .ok first begun ∧
        (new 1 (.sample 100)).establish .transparent .sample 0 = .ok sender ready ∧
        (∃ after last final, sender.encryptNext .transparent [1] [3] ready = .ok moved after ∧
          moved.2.encryptNext .transparent [2] [3] after = .ok (message, last) final) ∧
        (first.attempt .transparent (.decrypt message [3]) 0).connection.exportRecord.toOption.map
          (fun record => (record.skippedKeys.length,
            decide ((Record.SessionRecord.ofConnection record).encode.length < 2 ^ 64))) =
              some (1, true) ∧
        (first.attempt .transparent (.decrypt message [3]) 0).connection.exportRecord.toOption.map
          (fun record => match ofRecord .transparent ⟨8, 0, 8, 4, 100⟩ record 0 with
            | .ok imported _ =>
              imported.exportRecord.toOption.map (fun exported => exported.skippedKeys)
            | .error _ _ => none) = some (some []) :=
    ⟨_, _, _, _, _, _, rfl, rfl, ⟨_, _, _, rfl, rfl⟩, by decide +kernel, by decide +kernel⟩
  have own : ∀ pair, SessionSeed.samplePeer.localRatchetKey = some pair →
      pair.Matches .transparent := by
    rintro _ ⟨⟩ before
    exact ⟨before, rfl⟩
  have run : Continues .transparent first _ :=
    Continues.start.step (.decrypt message [3]) trivial 0
  obtain ⟨record, exports, returns, stored⟩ := inverse own established run
  rw [exports] at cached reads
  have facts := Prod.mk.inj (Option.some.inj cached)
  cases read : ofRecord .transparent ⟨8, 0, 8, 4, 100⟩ record 0 with
  | error failure after => simp [Except.toOption, read] at reads
  | ok imported after =>
    obtain ⟨exported, exportsAgain, again⟩ := normal read
    have noneLeft : exported.skippedKeys = [] := by
      simpa [Except.toOption, read, exportsAgain] using reads
    refine ⟨first, _, imported, record, exported, ⟨_, established⟩, run, exports, facts.1, returns,
      stored (of_decide_eq_true facts.2), ⟨_, read⟩, exportsAgain, noneLeft, fun other => ?_⟩
    obtain ⟨_, otherAfter, result, rfl, _⟩ := again other
    exact ⟨otherAfter, result⟩

end Connection

end RatchetMessaging
