import RatchetMessaging.Proofs.Connection.Acceptance
import RatchetMessaging.Proofs.Connection.Basic
import RatchetMessaging.Proofs.Conversation.Basic
import RatchetMessaging.Proofs.Provider.Calls
import RatchetMessaging.Proofs.Provider.Transparent
import RatchetMessaging.Proofs.Ratchet.Message

/-!
Contract: only what was sent is accepted.

Owns:
- `Connection.receive`, what a side does with the bytes that reach it;
- `Traffic`, two connections with what they have sent and every call of a primitive that they have
  made, and the runs of requests to them, with any provider at each step;
- `Traffic.Attributed`, the invariant that whatever was sealed is the ciphertext of a sent message,
  with the session, the caller and the header of that message authenticated;
- bytes that are accepted while nothing opens that was not sealed are those of a sent message.

Does not own: that a sent message is accepted, or accepted once.
-/

namespace RatchetMessaging

variable {σ : Type}

/-- Read a framed message, and decrypt it. -/
def Connection.receive (provider : Provider σ) (connection : Connection)
    (bytes associatedData : Bytes) : Crypto σ (Bytes × Connection) := do
  let message ← Crypto.ofExcept (RatchetMessage.ofBytes bytes)
  connection.decryptNext provider message associatedData

/-- What a request makes a connection send. -/
def Connection.sends (provider : Provider σ) (connection : Connection) (request : Request)
    (before : σ) : List Sent :=
  match request with
  | .encrypt plaintext associatedData =>
    match connection.encryptNext provider plaintext associatedData before with
    | .ok (message, _) _ => [⟨message, plaintext, associatedData⟩]
    | .error _ _ => []
  | _ => []

/-! ### Two connections and their calls -/

/-- Two connections, what they have sent, and the calls that they have made. -/
structure Traffic where
  connections : Side → Connection
  sent : List Sent
  calls : List Call

namespace Traffic

/-- The traffic after a request to one side. -/
def after (provider : Provider σ) (traffic : Traffic) (side : Side) (request : Request)
    (before : σ) : Traffic :=
  let outcome :=
    (traffic.connections side).attempt provider.recording request (before, traffic.calls)
  { connections := Function.update traffic.connections side outcome.connection
    sent := traffic.sent ++
      (traffic.connections side).sends provider.recording request (before, traffic.calls)
    calls := outcome.provider.2 }

/-- The traffic after bytes have reached a side. -/
def deliver (provider : Provider σ) (traffic : Traffic) (side : Side)
    (bytes associatedData : Bytes) (before : σ) : Traffic :=
  let delivery := (traffic.connections side).receive provider.recording bytes associatedData
  { connections := match delivery (before, traffic.calls) with
      | .ok (_, next) _ => Function.update traffic.connections side next
      | .error _ _ => traffic.connections
    sent := traffic.sent
    calls := Crypto.callsAfter delivery (before, traffic.calls) }

/-- Both connections authenticate the session. -/
def InSession (session : Bytes) (traffic : Traffic) : Prop :=
  ∀ side state, (traffic.connections side).phase = .established state →
    state.associatedData = session

/-- What can come of requests to two connections of one session that have not sent yet. Each
request has a provider of its own. -/
inductive Run (session : Bytes) : Traffic → Prop
  | start {connections : Side → Connection}
      (inSession : InSession session ⟨connections, [], []⟩) : Run session ⟨connections, [], []⟩
  | step {σ : Type} {traffic : Traffic} (run : Run session traffic) (provider : Provider σ)
      (side : Side) (request : Request) (before : σ) :
      Run session (traffic.after provider side request before)

/-- Whatever was sealed is the ciphertext of a sent message. -/
structure Attributed (session : Bytes) (traffic : Traffic) : Prop where
  inSession : traffic.InSession session
  attributed : ∀ key nonce plaintext associatedData ciphertext,
    .seal key nonce plaintext associatedData (some ciphertext) ∈ traffic.calls →
      ∃ sent ∈ traffic.sent, sent.plaintext = plaintext ∧ sent.message.ciphertext = ciphertext ∧
        MessageCipher.associatedData session sent.associatedData sent.message.header =
          associatedData

end Traffic

/-! ### What a request changes -/

section Steps

variable {provider : Provider σ} {connection : Connection} {state : RatchetState}

namespace Connection

/-- No request changes the session that a connection authenticates. -/
theorem Performs.associatedData {request : Request} {accepted : Option Acceptance}
    {limits : RatchetLimits} {result : RatchetState}
    (performs : Performs provider connection state request accepted limits result) :
    result.associatedData = state.associatedData := by
  cases performs with
  | sent sends isChain advanced =>
    cases sends with
    | same notDue => rfl
    | turned due turns =>
      obtain ⟨_, _, _, _, _, _, _, _, _, _, _, rfl⟩ := RatchetState.sendingTurn_eq_ok turns
      rfl
  | forced => rfl
  | read route => exact route.frame.2.2.2.1
  | restored reads =>
    obtain ⟨_, _, _, _, _, _, _, _, same, _⟩ := RatchetState.ofRecord_eq_ok reads
    exact same

theorem associatedData_of_attempt {request : Request} {before : σ} {result : RatchetState}
    (isResult : (connection.attempt provider request before).connection.phase =
      .established result) :
    ∃ state, connection.phase = .established state ∧
      result.associatedData = state.associatedData := by
  unfold attempt at isResult
  cases performed : connection.perform provider request before with
  | ok value after =>
    obtain ⟨state, _, next, isState, isNext, performs⟩ := performs_of_perform performed
    simp only [performed, isNext, Phase.established.injEq] at isResult
    subst isResult
    exact ⟨state, isState, performs.associatedData⟩
  | error failure after =>
    simp only [performed] at isResult
    exact ⟨result, isResult, rfl⟩

/-! ### What a request seals -/

theorem provider_of_attempt {request : Request} {before : σ × List Call} :
    (connection.attempt provider.recording request before).provider.2 =
      Crypto.callsAfter (connection.perform provider.recording request) before := by
  unfold attempt Crypto.callsAfter
  cases connection.perform provider.recording request before <;> rfl

/-- A request seals what it sends, and nothing else. -/
theorem mem_calls_of_attempt {request : Request} {before : σ × List Call} {call : Call}
    (seals : call.sealsMessage = true)
    (member : call ∈ (connection.attempt provider.recording request before).provider.2) :
    call ∈ before.2 ∨ ∃ state key nonce,
      ∃ sent ∈ connection.sends provider.recording request before,
      connection.phase = .established state ∧
      call = .seal key nonce sent.plaintext
        (MessageCipher.associatedData state.associatedData sent.associatedData sent.message.header)
        (some sent.message.ciphertext) := by
  rw [provider_of_attempt] at member
  have met := provider.quiet_derives
  -- Only an encryption seals; every other request adds calls of another kind.
  have quiet (records : Crypto.Records Call.Quiet
      (connection.perform provider.recording request)) : call ∈ before.2 := by
    obtain ⟨made, isMade, ofKind⟩ := records before
    rw [isMade, List.mem_append] at member
    exact member.resolve_right fun new => by simp [ofKind call new] at seals
  cases request with
  | encrypt plaintext associatedData =>
    have sameCalls : Crypto.callsAfter
        (connection.perform provider.recording (.encrypt plaintext associatedData)) before =
        Crypto.callsAfter
          (connection.stageEncrypt provider.recording plaintext associatedData) before :=
      (Crypto.callsAfter_bind_pure _ fun found : RatchetMessage × Connection =>
        (none, found.2)).trans
      (Crypto.callsAfter_bind_pure _ fun found : RatchetMessage × Staged =>
        (found.1, connection.commit found.2))
    rw [sameCalls] at member
    refine (mem_callsAfter_stageEncrypt seals member).imp_right ?_
    rintro ⟨state, message, staged, after, key, nonce, isState, encrypted, isCall⟩
    have sends : connection.encryptNext provider.recording plaintext associatedData before =
        .ok (message, connection.commit staged) after :=
      Crypto.bind_eq_ok.2 ⟨_, _, encrypted, rfl⟩
    refine ⟨state, key, nonce, ⟨message, plaintext, associatedData⟩, ?_, isState, isCall⟩
    simp [Connection.sends, sends]
  | forceRatchet =>
    exact .inl (quiet (met.compositional.bind (met.compositional.ofExcept _) fun _ =>
      met.compositional.returns _))
  | decrypt message associatedData =>
    refine .inl (quiet (met.compositional.bind ?_ fun _ => met.compositional.returns _))
    exact met.stageDecrypt provider.quiet_opens connection message associatedData
  | restore limits =>
    refine .inl (quiet (met.compositional.bind (met.compositional.ofExcept _) fun record => ?_))
    exact met.compositional.bind
      (met.compositional.ofRecord provider.quiet_draws.publishes _ _) fun _ =>
        met.compositional.returns _

/-! ### What a side accepts -/

/-- Bytes that are accepted frame a message that was opened. -/
theorem calls_of_receive {bytes associatedData plaintext : Bytes} {next : Connection}
    {before after : σ × List Call}
    (received : connection.receive provider.recording bytes associatedData before =
      .ok (plaintext, next) after) :
    ∃ (message : RatchetMessage) (state : RatchetState) (made : List Call) (key : FixedBytes 32)
      (nonce : FixedBytes 12), message.toBytes = bytes ∧
      connection.phase = .established state ∧ (∀ call ∈ made, call.Quiet) ∧
      after.2 = before.2 ++ made ++
        [.unseal key nonce message.ciphertext
          (MessageCipher.associatedData state.associatedData associatedData message.header)
          (some plaintext)] := by
  simp only [receive, decryptNext, Crypto.bind_eq_ok, Crypto.ofExcept_eq_ok,
    Crypto.pure_eq_ok] at received
  obtain ⟨message, _, ⟨isMessage, rfl⟩, ⟨opened, staged⟩, _, decrypted, same, rfl⟩ := received
  cases same
  obtain ⟨state, made, key, nonce, isState, quiet, isAfter⟩ := calls_of_stageDecrypt decrypted
  exact ⟨message, state, made, key, nonce, RatchetMessage.toBytes_of_ofBytes isMessage, isState,
    quiet, isAfter⟩

end Connection

end Steps

/-! ### Runs -/

namespace Traffic

variable {session : Bytes} {traffic : Traffic}

theorem Attributed.after (attributed : Attributed session traffic) (provider : Provider σ)
    (side : Side) (request : Request) (before : σ) :
    Attributed session (traffic.after provider side request before) where
  inSession probe state isState := by
    rcases Side.eq_or_eq_other side probe with rfl | rfl
    · simp only [Traffic.after, Function.update_self] at isState
      obtain ⟨earlier, isEarlier, same⟩ := Connection.associatedData_of_attempt isState
      exact same.trans (attributed.inSession _ _ isEarlier)
    · simp only [Traffic.after, Function.update_of_ne (Side.other_ne side)] at isState
      exact attributed.inSession _ _ isState
  attributed key nonce plaintext associatedData ciphertext member := by
    rcases Connection.mem_calls_of_attempt rfl member with
      old | ⟨state, _, _, sent, isSent, isState, isCall⟩
    · obtain ⟨sent, isSent, matching⟩ := attributed.attributed _ _ _ _ _ old
      exact ⟨sent, List.mem_append_left _ isSent, matching⟩
    · cases isCall
      refine ⟨sent, List.mem_append_right _ isSent, rfl, rfl, ?_⟩
      rw [attributed.inSession _ _ isState]

theorem Run.attributed (run : Run session traffic) : Attributed session traffic := by
  induction run with
  | start inSession => exact ⟨inSession, fun _ _ _ _ _ member => by simp at member⟩
  | step run provider side request before inductionHypothesis =>
    exact inductionHypothesis.after provider side request before

/-- A delivery of bytes is a request to decrypt the message that they frame, and comes to nothing
if they frame none. -/
theorem Run.deliver (run : Run session traffic) (provider : Provider σ) (side : Side)
    (bytes associatedData : Bytes) (before : σ) :
    Run session (traffic.deliver provider side bytes associatedData before) := by
  cases framed : RatchetMessage.ofBytes bytes with
  | error failure =>
    have refused : (traffic.connections side).receive provider.recording bytes associatedData
        (before, traffic.calls) = .error failure (before, traffic.calls) := by
      simp only [Connection.receive, framed]
      rfl
    simpa only [Traffic.deliver, Crypto.callsAfter, refused] using run
  | ok message =>
    have step := run.step provider side (.decrypt message associatedData) before
    have isDecryption : (traffic.connections side).receive provider.recording bytes associatedData =
        (traffic.connections side).decryptNext provider.recording message associatedData := by
      simp only [Connection.receive, framed]
      rfl
    cases decrypted : (traffic.connections side).stageDecrypt provider.recording message
      associatedData (before, traffic.calls) with
    | ok found after =>
      simp only [Traffic.deliver, Traffic.after, Crypto.callsAfter, isDecryption,
        Connection.decryptNext, Connection.attempt, Connection.perform,
        Crypto.bind_of_ok decrypted, Connection.sends, List.append_nil] at step ⊢
      exact step
    | error failure after =>
      simpa only [Traffic.deliver, Traffic.after, Crypto.callsAfter, isDecryption,
        Connection.decryptNext, Connection.attempt, Connection.perform,
        Crypto.bind_of_error decrypted, Connection.sends, List.append_nil,
        Function.update_eq_self] using step

/-- Whatever bytes reach a side after whatever run: as long as nothing opens that was not sealed,
they are accepted only if they are those of a message that was sent for the same caller, and then
the plaintext is the one that was sent. Other bytes are refused and change neither connection. -/
theorem Run.accepts_only_sent (run : Run session traffic) (provider : Provider σ) (side : Side)
    (bytes associatedData : Bytes) (before : σ)
    (authentic :
      OpensOnlySealed (traffic.deliver provider side bytes associatedData before).calls) :
    (∀ plaintext next after,
      (traffic.connections side).receive provider.recording bytes associatedData
          (before, traffic.calls) = .ok (plaintext, next) after →
        ∃ sent ∈ traffic.sent, sent.message.toBytes = bytes ∧
          sent.associatedData = associatedData ∧ sent.plaintext = plaintext) ∧
    ((∀ sent ∈ traffic.sent, sent.message.toBytes = bytes →
        sent.associatedData ≠ associatedData) →
      (∃ failure after,
        (traffic.connections side).receive provider.recording bytes associatedData
          (before, traffic.calls) = .error failure after) ∧
      (traffic.deliver provider side bytes associatedData before).connections =
        traffic.connections) := by
  have accepts (plaintext : Bytes) (next : Connection) (after : σ × List Call)
      (received : (traffic.connections side).receive provider.recording bytes associatedData
        (before, traffic.calls) = .ok (plaintext, next) after) :
      ∃ sent ∈ traffic.sent, sent.message.toBytes = bytes ∧
        sent.associatedData = associatedData ∧ sent.plaintext = plaintext := by
    obtain ⟨message, state, made, key, nonce, framed, isState, quiet, isAfter⟩ :=
      Connection.calls_of_receive received
    simp only [Traffic.deliver, Crypto.callsAfter_of_ok received, isAfter] at authentic
    have known := (List.mem_append.1 authentic.last).resolve_right fun new =>
      Bool.noConfusion (quiet _ new)
    obtain ⟨sent, isSent, samePlaintext, sameCiphertext, sameData⟩ :=
      run.attributed.attributed _ _ _ _ _ known
    rw [run.attributed.inSession _ _ isState] at sameData
    obtain ⟨sameCaller, sameHeader⟩ := MessageCipher.associatedData_inj sameData
    have sameMessage : sent.message = message := by
      cases isMessage : sent.message
      cases message
      simp_all
    exact ⟨sent, isSent, sameMessage ▸ framed, sameCaller, samePlaintext⟩
  refine ⟨accepts, fun unsent => ?_⟩
  simp only [Traffic.deliver]
  cases received : (traffic.connections side).receive provider.recording bytes associatedData
    (before, traffic.calls) with
  | ok value after =>
    obtain ⟨sent, isSent, framed, sameCaller, _⟩ := accepts _ _ _ received
    exact absurd sameCaller (unsent sent isSent framed)
  | error failure after => exact ⟨⟨failure, after, rfl⟩, rfl⟩

/-- Two ends of a session, of which the initiator has sent one message. -/
def sample : Traffic :=
  let connection (seed : SessionSeed) : Connection :=
    (((Connection.new 1 (.sample 100)).establish .transparent seed).value? 0).getD
      (.new 1 (.sample 100))
  let beginning : Traffic :=
    ⟨fun side => match side with
      | .initiator => connection .sample
      | .responder => connection .samplePeer, [], []⟩
  beginning.after Provider.transparent .initiator (.encrypt [1, 2, 3] [7]) 0

/-- The message is refused under other data of the caller, and accepted under the data that it was
sent with. -/
theorem accepts_only_sent_sample :
    ∃ sent ∈ sample.sent,
      OpensOnlySealed
        (sample.deliver .transparent .responder sent.message.toBytes [8] 0).calls ∧
      (sample.deliver .transparent .responder sent.message.toBytes [8] 0).connections =
        sample.connections ∧
      OpensOnlySealed
        (sample.deliver .transparent .responder sent.message.toBytes [7] 0).calls ∧
      ∃ accepted ∈ sample.sent, accepted.message.toBytes = sent.message.toBytes ∧
        accepted.associatedData = [7] ∧ accepted.plaintext = [1, 2, 3] := by
  have run : Run [] sample := .step (.start (by
    rintro (_ | _) state isState <;> cases isState <;> rfl)) _ _ _ _
  obtain ⟨sent, isSent, data, refused, opened, accepted⟩ : ∃ sent, sample.sent = [sent] ∧
      sent.associatedData = [7] ∧
      OpensOnlySealed
        (sample.deliver .transparent .responder sent.message.toBytes [8] 0).calls ∧
      OpensOnlySealed
        (sample.deliver .transparent .responder sent.message.toBytes [7] 0).calls ∧
      (match (sample.connections .responder).receive Provider.transparent.recording
          sent.message.toBytes [7] (0, sample.calls) with
        | .ok (plaintext, _) _ => plaintext
        | .error _ _ => []) = [1, 2, 3] :=
    ⟨_, rfl, rfl, by decide +kernel, by decide +kernel, by decide +kernel⟩
  refine ⟨sent, by simp [isSent], refused, ?_, opened, ?_⟩
  · refine ((run.accepts_only_sent _ _ _ _ _ refused).2 ?_).2
    simp [isSent, data]
  · cases received : (sample.connections .responder).receive Provider.transparent.recording
      sent.message.toBytes [7] (0, sample.calls) with
    | ok value after =>
      rw [received] at accepted
      obtain ⟨accepted, isAccepted, framed, sameData, plaintext⟩ :=
        (run.accepts_only_sent _ _ _ _ _ opened).1 _ _ _ received
      exact ⟨accepted, isAccepted, framed, sameData, by simp_all⟩
    | error failure after =>
      rw [received] at accepted
      cases accepted

end Traffic

end RatchetMessaging
