import Mathlib.Algebra.Group.Nat.Defs
import RatchetMessaging.Proofs.Conversation.Coherence

/-!
Contract: how far a reader has come when messages arrive in the order of sending.

Owns:
- the headers of a ledger, in the order of sending, and how many of them a state has passed;
- `Upcoming`, for the next header: it continues the present turn, or starts the next one, and it
  is within every limit;
- `Pace`, the relation of a writer and a reader between whom nothing is lost, and its steps.

Does not own: which turns cross.
-/

namespace RatchetMessaging

variable {σ : Type} {provider : Provider σ} {primitives : Primitives}
  {usable : FixedBytes 32 → Prop} {before after : σ} {limits : RatchetLimits}
  {ledger closed : List Turn} {state result : RatchetState} {turn current present : Turn}
  {header : MessageHeader} {accepted : List MessageHeader} {roomy : Bool} {place position : Nat}

/-! ### Headers in order -/

namespace Turn

/-- The headers of the messages of a turn, in the order of sending. -/
def headers (turn : Turn) : List MessageHeader :=
  (List.range turn.length.toNat).map (fun index => turn.headerAt (UInt32.ofNat index))

@[simp] theorem length_headers (turn : Turn) : turn.headers.length = turn.length.toNat := by
  simp [headers]

theorem getElem?_headers (below : position < turn.length.toNat) :
    turn.headers[position]? = some (turn.headerAt (UInt32.ofNat position)) := by
  simp [headers, below]

theorem headers_longer (notLast : turn.length ≠ 0xFFFFFFFF) :
    turn.longer.headers = turn.headers ++ [turn.headerAt turn.length] := by
  unfold headers
  rw [show turn.longer.length = turn.length + 1 from rfl, toNat_succ_of_ne_last notLast,
    List.range_succ, List.map_append, List.map_singleton, UInt32.ofNat_toNat]
  rfl

theorem headers_of_length_one (isShort : turn.length = 1) : turn.headers = [turn.headerAt 0] := by
  unfold headers
  rw [isShort]
  rfl

end Turn

/-- The headers of a ledger, split at a turn. -/
theorem flatMap_headers_eq (isPresent : ledger[place]? = some present) :
    ledger.flatMap Turn.headers = (ledger.take place).flatMap Turn.headers ++
      (present.headers ++ (ledger.drop (place + 1)).flatMap Turn.headers) := by
  obtain ⟨bound, same⟩ := List.getElem?_eq_some_iff.1 isPresent
  conv_lhs => rw [← List.take_append_drop place ledger, List.drop_eq_getElem_cons bound, same]
  rw [List.flatMap_append, List.flatMap_cons]

/-- The number of messages that the receiving chains have passed. -/
def RatchetState.passed (state : RatchetState) (ledger : List Turn) : Nat :=
  ((ledger.take state.receivingGeneration.toNat).flatMap Turn.headers).length + state.position

/-! ### The next message -/

namespace Follows

theorem position_le (follows : Follows primitives ledger state present) :
    state.position ≤ present.length.toNat := by
  unfold RatchetState.position
  rcases follows.chain with ⟨_, noChain⟩ | ⟨_, _, _, within, isChain⟩
  · rw [noChain]
    exact Nat.zero_le _
  · rw [isChain]
    exact UInt32.le_iff_toNat_le.1 within

/-- The present turn has a receiving chain when something was sent on it. -/
theorem exists_chain (follows : Follows primitives ledger state present)
    (proper : ProperLedger primitives usable ledger) (spoken : 0 < present.length) :
    ∃ chain, state.receivingChain = some chain ∧ chain.index.toNat = state.position := by
  rcases follows.chain with ⟨noKey, _⟩ | ⟨first, position, _, _, isChain⟩
  · have isEmpty := proper.silent present (List.mem_of_getElem? follows.isPresent) noKey
    rw [isEmpty] at spoken
    exact absurd spoken (UInt32.lt_irrefl _)
  · refine ⟨_, isChain, ?_⟩
    rw [RatchetState.position, isChain]
    rfl

theorem generation_of_unknown (follows : Follows primitives ledger state present)
    (unknown : state.remoteKey = none) : state.receivingGeneration = 0 := by
  rcases follows.remoteKey with known | ⟨_, isFirst, _⟩
  · rw [unknown] at known
    cases known
  · exact isFirst

/-- The key of the present turn is placed there, or learnt. -/
theorem place_of_present (follows : Follows primitives ledger state present)
    (hasChain : state.receivingChain.isSome = true) :
    state.place present.publicKey = .current state.receivingGeneration ∨
      state.place present.publicKey = .adopt state.receivingGeneration := by
  rcases follows.remoteKey with known | ⟨unknown, isFirst, _⟩
  · left
    rw [RatchetState.place_of_remote known, if_pos hasChain]
  · right
    rw [RatchetState.place_of_not_tracks, unknown, hasChain]
    · rfl
    · rintro (remote | ⟨superseded, member, _⟩ | retired)
      · rw [unknown] at remote
        cases remote
      · have older := (follows.superseded superseded member).1
        rw [isFirst] at older
        exact absurd older (UInt32.not_lt.2 UInt32.zero_le)
      · obtain ⟨_, _, older, _⟩ := follows.retired _ retired
        rw [isFirst] at older
        exact absurd older (Nat.not_lt_zero _)

/-- The key of the next turn starts a new chain. -/
theorem place_of_next (follows : Follows primitives ledger state present)
    (proper : ProperLedger primitives usable ledger)
    (isTurn : ledger[state.receivingGeneration.toNat + 1]? = some turn)
    (known : state.remoteKey ≠ none) : state.place turn.publicKey = .ratchet := by
  have later := follows.not_tracks_of_later proper isTurn (Nat.lt_succ_self _)
  rw [RatchetState.place_of_not_tracks later]
  simp [known]

end Follows

/-- The header continues the present turn, or starts the next one when the present one has come
to its end. -/
inductive Upcoming (ledger : List Turn) (state : RatchetState) (header : MessageHeader) : Prop
  | present {turn : Turn} {index : UInt32}
      (isTurn : ledger[state.receivingGeneration.toNat]? = some turn)
      (below : index < turn.length) (here : index.toNat = state.position)
      (isHeader : header = turn.headerAt index)
  | turn {present turn : Turn} (isPresent : ledger[state.receivingGeneration.toNat]? = some present)
      (isTurn : ledger[state.receivingGeneration.toNat + 1]? = some turn)
      (spoken : 0 < turn.length) (finished : state.position = present.length.toNat)
      (known : state.remoteKey ≠ none) (isHeader : header = turn.headerAt 0)

namespace Upcoming

theorem timely (upcoming : Upcoming ledger state header)
    (proper : ProperLedger primitives usable ledger)
    (follows : Follows primitives ledger state present) : Timely ledger state header := by
  intro place turn isTurn isKey
  cases upcoming with
  | present isPresent below here isHeader =>
    rw [isHeader] at isKey
    obtain rfl := proper.place_unique isPresent isTurn isKey
    refine ⟨fun unknown => ?_, fun placed => ?_⟩
    · rw [follows.generation_of_unknown unknown]
      rfl
    · exact absurd rfl (follows.place_ne_of_ratchet isTurn placed)
  | turn isPresent isNext spoken finished known isHeader =>
    rw [isHeader] at isKey
    exact ⟨fun unknown => absurd unknown known,
      fun _ => (proper.place_unique isNext isTurn isKey).symm⟩

/-- The next message is within every limit: there is no gap, neither on the old chain nor on a
new one. -/
theorem deliverable (upcoming : Upcoming ledger state header)
    (proper : ProperLedger primitives usable ledger)
    (follows : Follows primitives ledger state present) (bounded : ledger.length ≤ 2 ^ 32) :
    Deliverable limits state roomy header := by
  cases upcoming with
  | present isPresent below here isHeader =>
    cases follows.isPresent.symm.trans isPresent
    obtain ⟨chain, isChain, index⟩ := follows.exists_chain proper
      (UInt32.lt_of_le_of_lt UInt32.zero_le below)
    have hasChain : state.receivingChain.isSome = true := by rw [isChain]; rfl
    have same : header.chainIndex = chain.index := by
      rw [isHeader]
      exact UInt32.toNat_inj.1 (here.trans index.symm)
    have isKey : header.ratchetKey = present.publicKey := by rw [isHeader]; rfl
    refine .ahead (isKey ▸ follows.place_of_present hasChain) isChain ?_ ?_
    · exact UInt32.le_of_eq same.symm
    · rw [same, UInt32.sub_self]
      exact UInt32.zero_le
  | turn isPresent isTurn spoken finished known isHeader =>
    rename_i old turn
    cases follows.isPresent.symm.trans isPresent
    have placed : state.place header.ratchetKey = .ratchet := by
      rw [isHeader]
      exact follows.place_of_next proper isTurn known
    refine .turn placed ?_ ?_ ?_
    · intro isLast
      have bound := (List.getElem?_eq_some_iff.1 isTurn).1
      rw [isLast] at bound
      have far : (0xFFFFFFFF : UInt32).toNat + 1 = 2 ^ 32 := rfl
      omega
    · intro chain isChain below
      rw [isHeader] at below
      have ended : chain.index.toNat = present.length.toNat := by
        rw [← finished, RatchetState.position, isChain]
        rfl
      have previous := proper.previousLength _ _ _ isPresent isTurn
      rw [show (turn.headerAt 0).previousChainLength = turn.previousLength from rfl, previous,
        UInt32.toNat_inj.1 ended] at below
      exact absurd below (UInt32.lt_irrefl _)
    · rw [isHeader]
      exact UInt32.zero_le

/-- The next header is not behind the receiving chains. -/
theorem not_behind (upcoming : Upcoming ledger state header)
    (proper : ProperLedger primitives usable ledger) {slot : Slot}
    (isTurn : ledger[slot.generation.toNat]? = some turn)
    (isHeader : header = turn.headerAt slot.index) : ¬ state.Behind slot := by
  cases upcoming with
  | present isPresent below here isNext =>
    rename_i present index
    have same : slot.generation.toNat = state.receivingGeneration.toNat :=
      proper.place_unique isTurn isPresent
        (congrArg MessageHeader.ratchetKey (isHeader.symm.trans isNext))
    have sameIndex : slot.index = index :=
      congrArg MessageHeader.chainIndex (isHeader.symm.trans isNext)
    rintro (older | ⟨_, reached, isReached, passed⟩)
    · rw [UInt32.lt_iff_toNat_lt] at older
      omega
    · simp only [Option.mem_def, Option.map_eq_some_iff] at isReached
      obtain ⟨chain, isChain, rfl⟩ := isReached
      rw [RatchetState.position, isChain] at here
      rw [sameIndex, UInt32.lt_iff_toNat_lt, here] at passed
      exact Nat.lt_irrefl _ passed
  | turn isPresent isNext spoken finished known isNextHeader =>
    have same : slot.generation.toNat = state.receivingGeneration.toNat + 1 :=
      proper.place_unique isTurn isNext
        (congrArg MessageHeader.ratchetKey (isHeader.symm.trans isNextHeader))
    rintro (older | ⟨isSame, _⟩)
    · rw [UInt32.lt_iff_toNat_lt] at older
      omega
    · rw [isSame] at same
      omega

end Upcoming

/-! ### Acceptance of the next message -/

/-- Reception at the position of the chain or beyond leaves the chain behind the message. -/
theorem RatchetState.position_of_receive {index : UInt32} {key : FixedBytes 32}
    (receives : state.receive provider limits index before = .ok (key, result) after)
    (reached : state.position ≤ index.toNat) : result.position = index.toNat + 1 := by
  rcases RatchetState.receive_eq_ok receives with
    ⟨chain, isChain, behind, _⟩ |
    ⟨chain, _, last, _, next, _, isChain, notBehind, _, passed, advanced, _, rfl⟩
  · rw [RatchetState.position, isChain] at reached
    rw [UInt32.lt_iff_toNat_lt] at behind
    exact absurd reached (Nat.not_le.2 behind)
  · obtain ⟨notLast, _, isNext⟩ := Chain.advance_eq_ok advanced
    have moved := (Chain.advanceBy_eq_ok passed).2
    rw [UInt32.toNat_sub_of_le _ _ notBehind] at moved
    rw [UInt32.le_iff_toNat_le] at notBehind
    change next.index.toNat = _
    rw [isNext, toNat_succ_of_ne_last notLast]
    omega

namespace Upcoming

/-- What is accepted out of an upcoming message: one position more is passed. -/
theorem passed_of_route (upcoming : Upcoming ledger state header)
    (proper : ProperLedger primitives usable ledger)
    (follows : Follows primitives ledger state present) {key : FixedBytes 32} {generation : UInt32}
    (route : Connection.Route provider limits state header before after key generation result) :
    result.passed ledger = state.passed ledger + 1 ∧ result.remoteKey.isSome = true ∧
      ∃ slot turn, ledger[slot.generation.toNat]? = some turn ∧
        header = turn.headerAt slot.index ∧ result.Behind slot := by
  cases upcoming with
  | present isPresent below here isHeader =>
    rename_i turn index
    cases follows.isPresent.symm.trans isPresent
    obtain ⟨chain, isChain, _⟩ := follows.exists_chain proper
      (UInt32.lt_of_le_of_lt UInt32.zero_le below)
    have place := follows.place_of_present (by rw [isChain]; rfl)
    have isKey : header.ratchetKey = present.publicKey := by rw [isHeader]; rfl
    have isIndex : header.chainIndex = index := by rw [isHeader]; rfl
    rw [← isKey] at place
    cases route with
    | late placed cached => rw [placed] at place; simp at place
    | turn placed turns receives => rw [placed] at place; simp at place
    | present placed receives =>
      have moved := RatchetState.position_of_receive receives
        (Nat.le_of_eq (here.symm.trans (congrArg UInt32.toNat isIndex.symm)))
      obtain ⟨chain, _, rfl⟩ := RatchetState.receive_frame receives
      refine ⟨?_, rfl, ⟨state.receivingGeneration, index⟩, present, isPresent, isHeader,
        .inr ⟨rfl, chain.index, rfl, ?_⟩⟩
      · unfold RatchetState.passed
        rw [moved, isIndex, here]
        rfl
      · change chain.index.toNat = header.chainIndex.toNat + 1 at moved
        rw [UInt32.lt_iff_toNat_lt, moved, isIndex]
        exact Nat.lt_succ_self _
  | turn isPresent isTurn spoken finished known isHeader =>
    rename_i old turn
    cases follows.isPresent.symm.trans isPresent
    have isIndex : header.chainIndex = 0 := by rw [isHeader]; rfl
    have place : state.place header.ratchetKey = .ratchet := by
      rw [isHeader]
      exact follows.place_of_next proper isTurn known
    cases route with
    | late placed cached => simp [placed] at place
    | present placed receives => simp [place] at placed
    | turn placed turns receives =>
      have moved := RatchetState.position_of_receive receives
      obtain ⟨chain, _, rfl⟩ := RatchetState.receive_frame receives
      obtain ⟨_, _, _, _, _, _, skipped, notLast, _, _, rfl⟩ :=
        RatchetState.receivingTurn_eq_ok turns
      obtain ⟨_, _, rfl⟩ := RatchetState.skipReceivingUntil_frame skipped
      have next := toNat_succ_of_ne_last notLast
      replace moved := moved (Nat.zero_le _)
      rw [isIndex] at moved
      have bound := (List.getElem?_eq_some_iff.1 isPresent).1
      refine ⟨?_, rfl, ⟨state.receivingGeneration + 1, 0⟩, turn, ?_, isHeader,
        .inr ⟨rfl, chain.index, rfl, ?_⟩⟩
      · unfold RatchetState.passed
        rw [moved, finished]
        change ((ledger.take (state.receivingGeneration + 1).toNat).flatMap _).length + 1 = _
        rw [next, List.take_add_one, isPresent]
        simp
      · rw [next]
        exact isTurn
      · change chain.index.toNat = 1 at moved
        rw [UInt32.lt_iff_toNat_lt, moved]
        exact Nat.zero_lt_one

end Upcoming

/-! ### Pace -/

/-- A writer whose messages all arrive in the order of sending, and their reader. -/
structure Pace (writer reader : Endpoint) (reading : RatchetState) (ledger : List Turn) :
    Prop where
  headers : writer.sent.map (fun sent => sent.message.header) = ledger.flatMap Turn.headers
  /-- A turn is taken with a message. -/
  spoken : ∀ place turn, ledger[place + 1]? = some turn → 0 < turn.length
  count : reader.accepted.length = reading.passed ledger
  behind : ∀ header ∈ reader.accepted, ∃ slot turn, ledger[slot.generation.toNat]? = some turn ∧
    header = turn.headerAt slot.index ∧ reading.Behind slot
  /-- A reader that has to learn the writer's first key learns it from a message under it. -/
  unknown : reading.remoteKey = none → reader.accepted = [] ∧
    (1 < ledger.length → ∃ turn, ledger[0]? = some turn ∧ 0 < turn.length)

namespace Pace

variable {writer reader : Endpoint} {reading : RatchetState} {sent : Sent} {staged : Staged}

/-- What arrives next is upcoming. -/
theorem upcoming (pace : Pace writer reader reading ledger)
    (follows : Follows primitives ledger reading present)
    (isNext : writer.sent[reader.accepted.length]? = some sent) :
    Upcoming ledger reading sent.message.header := by
  have isHeader : (ledger.flatMap Turn.headers)[reading.passed ledger]? =
      some sent.message.header := by
    rw [← pace.headers, ← pace.count, List.getElem?_map, isNext]
    rfl
  have within := follows.position_le
  rw [flatMap_headers_eq follows.isPresent, RatchetState.passed,
    List.getElem?_append_right (Nat.le_add_right _ _), Nat.add_sub_cancel_left] at isHeader
  by_cases below : reading.position < present.length.toNat
  · rw [List.getElem?_append_left (by simpa using below), Turn.getElem?_headers below] at isHeader
    have index : (UInt32.ofNat reading.position).toNat = reading.position :=
      UInt32.toNat_ofNat_of_lt' (Nat.lt_trans below present.length.toNat_lt)
    exact .present follows.isPresent (UInt32.lt_iff_toNat_lt.2 (by rw [index]; exact below)) index
      (Option.some.inj isHeader).symm
  · have finished : reading.position = present.length.toNat := by omega
    rw [List.getElem?_append_right (by simpa using Nat.le_of_not_lt below), Turn.length_headers,
      finished, Nat.sub_self] at isHeader
    cases isTurn : ledger[reading.receivingGeneration.toNat + 1]? with
    | none =>
      rw [List.drop_eq_nil_of_le (List.getElem?_eq_none_iff.1 isTurn)] at isHeader
      simp at isHeader
    | some turn =>
      obtain ⟨bound, same⟩ := List.getElem?_eq_some_iff.1 isTurn
      have spoken := pace.spoken _ turn isTurn
      have isLong : 0 < turn.length.toNat := UInt32.lt_iff_toNat_lt.1 spoken
      rw [List.drop_eq_getElem_cons bound, same, List.flatMap_cons,
        List.getElem?_append_left (by simpa using isLong), Turn.getElem?_headers isLong] at isHeader
      refine .turn follows.isPresent isTurn spoken finished (fun unknown => ?_)
        (Option.some.inj isHeader).symm
      obtain ⟨nothing, starts⟩ := pace.unknown unknown
      have count := pace.count
      rw [nothing, RatchetState.passed, List.length_nil] at count
      obtain ⟨first, isFirst, begun⟩ := starts (by omega)
      have isPresent := follows.isPresent
      rw [follows.generation_of_unknown unknown] at isPresent
      cases isPresent.symm.trans isFirst
      rw [UInt32.lt_iff_toNat_lt, ← finished] at begun
      omega

/-- What arrives next was not accepted before. -/
theorem not_accepted (pace : Pace writer reader reading ledger)
    (proper : ProperLedger primitives usable ledger)
    (upcoming : Upcoming ledger reading header) : header ∉ reader.accepted := by
  intro member
  obtain ⟨slot, turn, isTurn, isHeader, behind⟩ := pace.behind header member
  exact upcoming.not_behind proper isTurn isHeader behind

/-- The pace after the next message was accepted. -/
theorem received (pace : Pace writer reader reading ledger)
    (proper : ProperLedger primitives usable ledger)
    (follows : Follows primitives ledger reading present) (sound : reading.Sound)
    (upcoming : Upcoming ledger reading header) {key : FixedBytes 32} {generation : UInt32}
    (route : Connection.Route provider limits reading header before after key generation result) :
    Pace writer (reader.afterReceiving header staged)
      (result.recording ⟨generation, header.chainIndex⟩) ledger := by
  obtain ⟨passed, known, slot, turn, isTurn, isHeader, behind⟩ :=
    upcoming.passed_of_route proper follows route
  refine ⟨pace.headers, pace.spoken, ?_, fun other member => ?_, fun unknown => ?_⟩
  · change (reader.accepted ++ [header]).length = result.passed ledger
    rw [List.length_append, List.length_singleton, pace.count, passed]
  · rcases List.mem_append.1 member with earlier | isNew
    · obtain ⟨slot, turn, isTurn, isHeader, behind⟩ := pace.behind other earlier
      exact ⟨slot, turn, isTurn, isHeader, (route.advances sound).narrows.behind slot behind⟩
    · rw [List.mem_singleton.1 isNew]
      exact ⟨slot, turn, isTurn, isHeader, behind⟩
  · change result.remoteKey = none at unknown
    rw [unknown] at known
    cases known

/-- The reader keeps its pace when the ledger grows behind the present turn. -/
theorem grow (pace : Pace writer reader reading ledger) {next : List Turn} {other : Endpoint}
    (grows : LedgerGrows ledger next)
    (headers : other.sent.map (fun sent => sent.message.header) = next.flatMap Turn.headers)
    (spoken : ∀ place turn, next[place + 1]? = some turn → 0 < turn.length)
    (taken : next.take reading.receivingGeneration.toNat =
      ledger.take reading.receivingGeneration.toNat)
    (starts : reading.remoteKey = none → 1 < next.length →
      ∃ turn, ledger[0]? = some turn ∧ 0 < turn.length) :
    Pace other reader reading next := by
  refine ⟨headers, spoken, ?_, fun header member => ?_, fun unknown => ?_⟩
  · rw [pace.count, RatchetState.passed, RatchetState.passed, taken]
  · obtain ⟨slot, turn, isTurn, isHeader, behind⟩ := pace.behind header member
    obtain ⟨grown, isGrown, same, _⟩ := grows _ turn isTurn
    exact ⟨slot, grown, isGrown, isHeader.trans (same.headerAt slot.index).symm, behind⟩
  · refine ⟨(pace.unknown unknown).1, fun long => ?_⟩
    obtain ⟨turn, isTurn, begun⟩ := starts unknown long
    obtain ⟨grown, isGrown, same, _⟩ := grows _ turn isTurn
    exact ⟨grown, isGrown, UInt32.lt_of_lt_of_le begun same.length⟩

/-- The pace after one message more on the present chain of the writer. -/
theorem sentMessage (pace : Pace writer reader reading (closed ++ [current]))
    (bound : reading.receivingGeneration.toNat < (closed ++ [current]).length)
    (notLast : current.length ≠ 0xFFFFFFFF)
    (isHeader : sent.message.header = current.headerAt current.length) :
    Pace (writer.afterSending sent staged) reader reading (closed ++ [current.longer]) := by
  have longer : current.length < current.length + 1 := by
    rw [UInt32.lt_iff_toNat_lt, toNat_succ_of_ne_last notLast]
    exact Nat.lt_succ_self _
  have grows : LedgerGrows (closed ++ [current]) (closed ++ [current.longer]) :=
    ledgerGrows_message closed ⟨rfl, rfl, rfl, UInt32.le_of_lt longer⟩
  rw [List.length_append, List.length_singleton] at bound
  refine pace.grow grows ?_ (fun place turn isTurn => ?_) ?_ (fun unknown long => ?_)
  · change (writer.sent ++ [sent]).map _ = _
    rw [List.map_append, pace.headers, List.map_singleton, isHeader]
    simp [Turn.headers_longer notLast]
  · rcases getElem?_concat_eq_some isTurn with inClosed | ⟨_, rfl⟩
    · refine pace.spoken place turn ?_
      rw [List.getElem?_append_left (List.getElem?_eq_some_iff.1 inClosed).1]
      exact inClosed
    · exact UInt32.lt_of_le_of_lt UInt32.zero_le longer
  · rw [List.take_append_of_le_length (by omega), List.take_append_of_le_length (by omega)]
  · refine (pace.unknown unknown).2 ?_
    rw [List.length_append, List.length_singleton] at long ⊢
    exact long

/-- The pace after a turn of the writer. -/
theorem sentTurn (pace : Pace writer reader reading (closed ++ [current]))
    (bound : reading.receivingGeneration.toNat < (closed ++ [current]).length)
    (isShort : turn.length = 1) (isHeader : sent.message.header = turn.headerAt 0)
    (begun : reading.remoteKey = none → 0 < current.length) :
    Pace (writer.afterSending sent staged) reader reading (closed ++ [current] ++ [turn]) := by
  refine pace.grow (ledgerGrows_turn _ turn) ?_ (fun place other isOther => ?_) ?_
    (fun unknown _ => ?_)
  · change (writer.sent ++ [sent]).map _ = _
    rw [List.map_append, pace.headers, List.map_singleton, isHeader]
    simp [Turn.headers_of_length_one isShort]
  · rcases getElem?_concat_eq_some isOther with earlier | ⟨_, rfl⟩
    · exact pace.spoken place other earlier
    · rw [isShort]
      decide
  · exact List.take_append_of_le_length (Nat.le_of_lt bound)
  · cases closed with
    | nil => exact ⟨current, rfl, begun unknown⟩
    | cons first rest => exact (pace.unknown unknown).2 (by simp)

end Pace

end RatchetMessaging
