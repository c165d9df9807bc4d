import Mathlib.Data.List.Nodup
import RatchetMessaging.Proofs.Ratchet.Turn

/-!
Contract: the headers of the messages that one side sends, and the counters behind them.

Owns:
- what happens on the sending side of a session, and what is read off a list of such events: the
  headers, the fresh ratchet keys, and whether a turn is awaited;
- the counters of the sending side, and every way in which they move;
- `Follows`, that the counters are at the header after the last one; `Numbers`, that every chain is
  numbered from zero without a gap, while the fresh keys are distinct.

Does not own: which request causes which event.
-/

namespace RatchetMessaging

/-! ### Events -/

/-- What happens on the sending side of a session. -/
inductive SendingEvent where
  /-- A message goes out on the chain of the message before it. -/
  | continued (header : MessageHeader)
  /-- A message goes out under a fresh ratchet key. -/
  | turned (header : MessageHeader)
  /-- A turn is asked for. -/
  | asked
  /-- A message of the peer starts a new chain. -/
  | followed
deriving DecidableEq

namespace SendingEvent

def header? : SendingEvent → Option MessageHeader
  | continued header => some header
  | turned header => some header
  | asked => none
  | followed => none

def freshKey? : SendingEvent → Option X25519PublicKey
  | turned header => some header.ratchetKey
  | _ => none

/-- The headers of the messages that were sent, the oldest first. -/
def headers (events : List SendingEvent) : List MessageHeader :=
  events.filterMap header?

/-- The ratchet keys that were made for messages. -/
def freshKeys (events : List SendingEvent) : List X25519PublicKey :=
  events.filterMap freshKey?

/-- Whether a turn is awaited after an event. -/
def awaits (awaited : Bool) : SendingEvent → Bool
  | continued _ => awaited
  | turned _ => false
  | asked => true
  | followed => true

/-- A turn was asked for, or the peer has turned, since the last turn of this side. -/
def turnAwaited (events : List SendingEvent) : Bool :=
  events.foldl awaits false

/-- A turn is due after a message, because it is awaited, or because the chain has reached the
threshold. -/
def TurnDue (threshold : UInt32) (events : List SendingEvent) (previous : MessageHeader) : Prop :=
  turnAwaited events = true ∨ threshold.toNat ≤ previous.chainIndex.toNat + 1

variable (events : List SendingEvent) (event : SendingEvent)

@[simp] theorem headers_append_singleton :
    headers (events ++ [event]) = headers events ++ event.header?.toList := by
  rw [headers, List.filterMap_append, ← headers]
  cases event <;> rfl

@[simp] theorem freshKeys_append_singleton :
    freshKeys (events ++ [event]) = freshKeys events ++ event.freshKey?.toList := by
  rw [freshKeys, List.filterMap_append, ← freshKeys]
  cases event <;> rfl

@[simp] theorem turnAwaited_append_singleton :
    turnAwaited (events ++ [event]) = event.awaits (turnAwaited events) := by
  rw [turnAwaited, List.foldl_append]
  rfl

end SendingEvent

/-- The position of a message. -/
def MessageHeader.position (header : MessageHeader) : X25519PublicKey × UInt32 :=
  (header.ratchetKey, header.chainIndex)

/-! ### Counters -/

/-- The counters of the sending side. There is no next index before the first chain. -/
structure SendingSide where
  key : X25519PublicKey
  previousLength : UInt32
  nextIndex : Option UInt32
  pending : Bool

/-- The sending side of a state. -/
def RatchetState.sendingSide (state : RatchetState) : SendingSide where
  key := state.keyPair.publicKey
  previousLength := state.previousSendingChainLength
  nextIndex := state.sendingChain.map Chain.index
  pending := state.sendingRatchetPending

namespace SendingSide

/-- A turn comes before the next message. -/
def Due (threshold : UInt32) (side : SendingSide) : Prop :=
  side.pending = true ∨ ∀ index, side.nextIndex = some index → threshold ≤ index

/-- Every way in which the sending side moves, and the event that goes with it. A fresh key is one
that is just made. -/
inductive Moves (threshold : UInt32) (made : X25519PublicKey → Prop) (side : SendingSide) :
    Option SendingEvent → SendingSide → Prop
  | rests : Moves threshold made side none side
  | asked : Moves threshold made side (some .asked) { side with pending := true }
  | followed : Moves threshold made side (some .followed) { side with pending := true }
  | continued {index : UInt32} (notPending : side.pending = false)
      (isNext : side.nextIndex = some index) (below : index < threshold)
      (notLast : index ≠ 0xFFFFFFFF) :
      Moves threshold made side (some (.continued ⟨side.key, side.previousLength, index⟩))
        { side with nextIndex := some (index + 1) }
  | turned {key : X25519PublicKey} (due : side.Due threshold) (isMade : made key) :
      Moves threshold made side (some (.turned ⟨key, side.nextIndex.getD 0, 0⟩))
        ⟨key, side.nextIndex.getD 0, some 1, false⟩

/-! ### The header after the last one -/

/-- The counters are at the header that follows those of the events. -/
structure Follows (threshold : UInt32) (events : List SendingEvent) (side : SendingSide) :
    Prop where
  pending : side.pending = (SendingEvent.turnAwaited events || side.nextIndex.isNone)
  begins : SendingEvent.headers events = [] →
    side.nextIndex.getD 0 = 0 ∧ side.previousLength = 0
  goesOn : ∀ previous, (SendingEvent.headers events).getLast? = some previous →
    previous.ratchetKey = side.key ∧ previous.previousChainLength = side.previousLength ∧
      ∃ index, side.nextIndex = some index ∧ index.toNat = previous.chainIndex.toNat + 1
  below : ∀ header ∈ SendingEvent.headers events,
    header.chainIndex.toNat < max 1 threshold.toNat

variable {threshold : UInt32} {made : X25519PublicKey → Prop} {side next : SendingSide}
  {events : List SendingEvent}

theorem follows_nil (noPrevious : side.previousLength = 0)
    (pending : side.pending = side.nextIndex.isNone)
    (unused : ∀ index, side.nextIndex = some index → index = 0) : side.Follows threshold [] where
  pending := pending
  begins _ := by
    refine ⟨?_, noPrevious⟩
    cases isNext : side.nextIndex with
    | none => rfl
    | some index => exact unused index isNext
  goesOn _ isLast := by cases isLast
  below _ member := by cases member

/-- Whether a turn is due can be told from the events alone. -/
theorem Follows.due_iff (follows : side.Follows threshold events) {previous : MessageHeader}
    (isLast : (SendingEvent.headers events).getLast? = some previous) :
    side.Due threshold ↔ SendingEvent.TurnDue threshold events previous := by
  obtain ⟨_, _, index, isNext, isIndex⟩ := follows.goesOn previous isLast
  have pending : side.pending = SendingEvent.turnAwaited events := by
    rw [follows.pending, isNext]
    exact Bool.or_false _
  have reached : (∀ index, side.nextIndex = some index → threshold ≤ index) ↔
      threshold.toNat ≤ previous.chainIndex.toNat + 1 := by
    rw [← isIndex, isNext, ← UInt32.le_iff_toNat_le]
    exact ⟨fun all => all index rfl, by rintro below _ ⟨⟩; exact below⟩
  rw [Due, SendingEvent.TurnDue, pending, reached]

/-- The header that goes out is the one that the counters give. -/
theorem Moves.header_eq {event : SendingEvent} {header : MessageHeader}
    (moves : side.Moves threshold made (some event) next)
    (sends : event.header? = some header) :
    (¬ side.Due threshold ∧
        ∃ index, side.nextIndex = some index ∧ header = ⟨side.key, side.previousLength, index⟩) ∨
      (side.Due threshold ∧
        ∃ key, made key ∧ header = ⟨key, side.nextIndex.getD 0, 0⟩) := by
  cases moves with
  | asked => cases sends
  | followed => cases sends
  | @continued index notPending isNext below notLast =>
    cases sends
    refine .inl ⟨?_, index, isNext, rfl⟩
    rintro (pending | reached)
    · rw [notPending] at pending
      cases pending
    · exact absurd below (UInt32.not_lt.2 (reached index isNext))
  | @turned key due isMade =>
    cases sends
    exact .inr ⟨due, key, isMade, rfl⟩

/-- The first header has no messages before it. A later one continues the chain of the one before,
or it begins a chain and counts the messages of the last. -/
theorem Follows.header_of_moves {event : SendingEvent} {header : MessageHeader}
    (follows : side.Follows threshold events)
    (moves : side.Moves threshold made (some event) next)
    (sends : event.header? = some header) :
    (SendingEvent.headers events = [] →
      header.chainIndex = 0 ∧ header.previousChainLength = 0) ∧
    ∀ previous, (SendingEvent.headers events).getLast? = some previous →
      (¬ SendingEvent.TurnDue threshold events previous →
        header.ratchetKey = previous.ratchetKey ∧
        header.previousChainLength = previous.previousChainLength ∧
        header.chainIndex.toNat = previous.chainIndex.toNat + 1) ∧
      (SendingEvent.TurnDue threshold events previous →
        made header.ratchetKey ∧ header.chainIndex = 0 ∧
        header.previousChainLength.toNat = previous.chainIndex.toNat + 1) := by
  constructor
  · intro nothingSent
    obtain ⟨noneBefore, noPrevious⟩ := follows.begins nothingSent
    rcases moves.header_eq sends with ⟨_, index, isNext, rfl⟩ | ⟨_, key, _, rfl⟩
    · rw [isNext, Option.getD_some] at noneBefore
      exact ⟨noneBefore, noPrevious⟩
    · exact ⟨rfl, noneBefore⟩
  · intro previous isLast
    obtain ⟨sameKey, sameLength, index, isNext, isIndex⟩ := follows.goesOn previous isLast
    rw [← follows.due_iff isLast]
    rcases moves.header_eq sends with ⟨notDue, _, alsoNext, rfl⟩ | ⟨due, key, isMade, rfl⟩
    · cases isNext.symm.trans alsoNext
      exact ⟨fun _ => ⟨sameKey.symm, sameLength.symm, isIndex⟩, fun due => absurd due notDue⟩
    · refine ⟨fun notDue => absurd due notDue, fun _ => ⟨isMade, rfl, ?_⟩⟩
      rw [isNext, Option.getD_some, isIndex]

/-- A message that goes out is the last one, and the counters go on from it. -/
theorem Follows.send {event : SendingEvent} {header : MessageHeader}
    (follows : side.Follows threshold events) (sends : event.header? = some header)
    (pending : next.pending = event.awaits (SendingEvent.turnAwaited events))
    (sameKey : header.ratchetKey = next.key)
    (sameLength : header.previousChainLength = next.previousLength)
    (notLast : header.chainIndex ≠ 0xFFFFFFFF)
    (isNext : next.nextIndex = some (header.chainIndex + 1))
    (below : header.chainIndex.toNat < max 1 threshold.toNat) :
    next.Follows threshold (events ++ [event]) where
  pending := by
    rw [SendingEvent.turnAwaited_append_singleton, isNext, pending]
    exact (Bool.or_false _).symm
  begins := by simp [sends]
  goesOn previous isLast := by
    rw [SendingEvent.headers_append_singleton, sends, Option.toList_some,
      List.getLast?_concat] at isLast
    cases isLast
    exact ⟨sameKey, sameLength, _, isNext, toNat_succ_of_ne_last notLast⟩
  below sent member := by
    rw [SendingEvent.headers_append_singleton, sends, Option.toList_some, List.mem_append,
      List.mem_singleton] at member
    rcases member with earlier | rfl
    · exact follows.below sent earlier
    · exact below

/-- A turn that is asked for is awaited, and no message goes out. -/
theorem Follows.await {event : SendingEvent} (follows : side.Follows threshold events)
    (silent : event.header? = none) (awaits : ∀ awaited, event.awaits awaited = true) :
    Follows threshold (events ++ [event]) { side with pending := true } := by
  have sameHeaders :
      SendingEvent.headers (events ++ [event]) = SendingEvent.headers events := by
    rw [SendingEvent.headers_append_singleton, silent, Option.toList_none, List.append_nil]
  refine ⟨?_, ?_, ?_, ?_⟩
  · rw [SendingEvent.turnAwaited_append_singleton, awaits]
    rfl
  · rw [sameHeaders]
    exact follows.begins
  · rw [sameHeaders]
    exact follows.goesOn
  · rw [sameHeaders]
    exact follows.below

/-- One move keeps the counters at the header after the last one. -/
theorem Moves.follows {event : Option SendingEvent}
    (moves : side.Moves threshold made event next) (follows : side.Follows threshold events) :
    next.Follows threshold (events ++ event.toList) := by
  cases moves with
  | rests => simpa using follows
  | asked => exact follows.await rfl (fun _ => rfl)
  | followed => exact follows.await rfl (fun _ => rfl)
  | continued notPending isNext below notLast =>
    have notAwaited : SendingEvent.turnAwaited events = false := by
      have pending := follows.pending
      rw [notPending] at pending
      exact (Bool.or_eq_false_iff.1 pending.symm).1
    have inBounds := Nat.lt_of_lt_of_le (UInt32.lt_iff_toNat_lt.1 below) (Nat.le_max_right 1 _)
    exact follows.send rfl (notPending.trans notAwaited.symm) rfl rfl notLast rfl inBounds
  | turned due isMade =>
    refine follows.send rfl rfl rfl rfl ?_ rfl ?_
    · show (0 : UInt32) ≠ 0xFFFFFFFF
      decide
    · show 0 < max 1 threshold.toNat
      omega

/-! ### Every chain is numbered -/

/-- The messages of the present chain are numbered from zero up to the next index, and no position
occurs twice among all messages. -/
structure Numbers (known : List X25519PublicKey) (sent : List MessageHeader)
    (side : SendingSide) : Prop where
  sentKnown : ∀ header ∈ sent, header.ratchetKey ∈ known
  keyKnown : ∀ index, side.nextIndex = some index → side.key ∈ known
  present : ∀ index, side.nextIndex = some index →
    (sent.filter (fun header => header.ratchetKey = side.key)).map
      (fun header => header.chainIndex.toNat) = List.range index.toNat
  once : (sent.map MessageHeader.position).Nodup

variable {known : List X25519PublicKey} {sent : List MessageHeader} {header : MessageHeader}
  {key : X25519PublicKey} {index : UInt32}

theorem numbers_nil (opened : ∀ index, side.nextIndex = some index → side.key ∈ known)
    (unused : ∀ index, side.nextIndex = some index → index = 0) : side.Numbers known [] where
  sentKnown _ member := by cases member
  keyKnown := opened
  present index isNext := by
    rw [unused index isNext]
    rfl
  once := List.nodup_nil

theorem Numbers.index_lt (numbers : side.Numbers known sent)
    (isNext : side.nextIndex = some index) (member : header ∈ sent)
    (sameKey : header.ratchetKey = side.key) : header.chainIndex.toNat < index.toNat := by
  rw [← List.mem_range, ← numbers.present index isNext]
  exact List.mem_map.2 ⟨header, List.mem_filter.2 ⟨member, decide_eq_true sameKey⟩, rfl⟩

/-- The next index counts the messages of the present chain. -/
theorem Numbers.countP_eq (numbers : side.Numbers known sent)
    (isNext : side.nextIndex = some index) :
    sent.countP (fun header => header.ratchetKey = side.key) = index.toNat := by
  have lengths := congrArg List.length (numbers.present index isNext)
  rw [List.length_map, List.length_range] at lengths
  rw [List.countP_eq_length_filter]
  exact lengths

theorem nodup_position_append (once : (sent.map MessageHeader.position).Nodup)
    (unused : ∀ earlier ∈ sent, earlier.position ≠ header.position) :
    ((sent ++ [header]).map MessageHeader.position).Nodup := by
  rw [List.map_append, List.nodup_append]
  refine ⟨once, List.nodup_singleton _, ?_⟩
  rintro _ isEarlier _ isNew rfl
  obtain ⟨earlier, member, samePosition⟩ := List.mem_map.1 isEarlier
  rw [List.map_singleton, List.mem_singleton, ← samePosition] at isNew
  exact unused earlier member isNew

/-- A message at the next index of the present chain. -/
theorem Numbers.proceed (numbers : side.Numbers known sent)
    (isNext : side.nextIndex = some index) (notLast : index ≠ 0xFFFFFFFF) :
    Numbers known (sent ++ [⟨side.key, side.previousLength, index⟩])
      { side with nextIndex := some (index + 1) } where
  sentKnown header member := by
    rcases List.mem_append.1 member with earlier | isNew
    · exact numbers.sentKnown header earlier
    · cases List.mem_singleton.1 isNew
      exact numbers.keyKnown index isNext
  keyKnown _ _ := numbers.keyKnown index isNext
  present := by
    rintro _ ⟨⟩
    rw [List.filter_append, List.map_append, numbers.present index isNext,
      toNat_succ_of_ne_last notLast, List.range_succ]
    simp
  once := by
    apply nodup_position_append numbers.once
    intro earlier member samePosition
    obtain ⟨sameKey, sameIndex⟩ := Prod.mk.inj samePosition
    have smaller := numbers.index_lt isNext member sameKey
    rw [sameIndex] at smaller
    exact Nat.lt_irrefl _ smaller

/-- The first message of a chain whose key has not occurred. -/
theorem Numbers.turn (numbers : side.Numbers known sent) (fresh : key ∉ known)
    (previousLength : UInt32) :
    Numbers (known ++ [key]) (sent ++ [⟨key, previousLength, 0⟩])
      ⟨key, previousLength, some 1, false⟩ := by
  have unused : ∀ header ∈ sent, header.ratchetKey ≠ key := fun header member sameKey =>
    fresh (sameKey ▸ numbers.sentKnown header member)
  refine ⟨?_, ?_, ?_, ?_⟩
  · intro header member
    rcases List.mem_append.1 member with earlier | isNew
    · exact List.mem_append_left _ (numbers.sentKnown header earlier)
    · cases List.mem_singleton.1 isNew
      exact List.mem_append_right _ List.mem_cons_self
  · intro _ _
    exact List.mem_append_right _ List.mem_cons_self
  · rintro _ ⟨⟩
    have noneBefore : sent.filter (fun header => header.ratchetKey = key) = [] :=
      List.filter_eq_nil_iff.2 (fun header member => by simpa using unused header member)
    rw [List.filter_append, noneBefore]
    simp
  · apply nodup_position_append numbers.once
    intro earlier member samePosition
    exact unused earlier member (Prod.mk.inj samePosition).1

/-- One move keeps every chain numbered, when a fresh key has not occurred. -/
theorem Moves.numbers {event : Option SendingEvent}
    (moves : side.Moves threshold made event next)
    (numbers : side.Numbers known (SendingEvent.headers events))
    (distinct : (known ++ (event.bind SendingEvent.freshKey?).toList).Nodup) :
    next.Numbers (known ++ (event.bind SendingEvent.freshKey?).toList)
      (SendingEvent.headers (events ++ event.toList)) := by
  cases moves with
  | rests => simpa using numbers
  | asked => simpa [SendingEvent.header?, SendingEvent.freshKey?] using { numbers with }
  | followed => simpa [SendingEvent.header?, SendingEvent.freshKey?] using { numbers with }
  | continued notPending isNext below notLast =>
    simpa [SendingEvent.header?, SendingEvent.freshKey?] using numbers.proceed isNext notLast
  | @turned key due isMade =>
    have fresh : key ∉ known := fun member =>
      (List.nodup_append.1 distinct).2.2 key member key List.mem_cons_self rfl
    simpa [SendingEvent.header?, SendingEvent.freshKey?] using numbers.turn fresh _

end SendingSide

end RatchetMessaging
