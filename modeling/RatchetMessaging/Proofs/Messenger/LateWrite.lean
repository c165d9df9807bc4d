import RatchetMessaging.Messenger.SlowSave
import RatchetMessaging.Proofs.Messenger.Sample
import RatchetMessaging.Proofs.Messenger.StoredConnection

/-!
Contract: the stored records of live connections, beside background saves that take time.

Owns:
- `SlowStep`, an operation from its beginning to its end, or a moment of a background save at work;
  a moment in the middle of an operation counts as one before it or after it;
- `InTime`: no operation stores a turn of the ratchet, or a new connection, while a record of the
  connection is being written. The program sees to this for the save that none has replaced, whose
  end it waits for, and leaves the replaced ones to themselves;
- along every run in time, whichever writes fail, the stored record of every live connection is
  never behind a turn, and it is the whole live state when a message that took a turn returns;
- two ways in which the stored record is not that of the live state: a replaced save whose write
  outlasts a turn, and a record of another origin.

Does not own: changes that no turn has made, which may be stored later.
-/

namespace RatchetMessaging

variable {σ : Type} {provider : Provider σ} {origin : Volume}

/-- The number and the turns of the stored record of a connection. -/
def Site.storedTurn? (site : Site) (connectionId : UInt32) : Option (UInt32 × TurnFields) :=
  (site.volume.connectionRecord? connectionId).map
    (fun stored => (stored.connectionId, stored.turnFields))

/-! ### Runs -/

/-- What can happen to a process whose background saves take time. -/
inductive SlowStep (σ : Type) where
  /-- An operation begins and comes to its end. -/
  | perform (command : Command σ)
  /-- The save of a connection goes to work. -/
  | begin (connectionId : UInt32)
  /-- The save at work at a position takes its record, and its write begins. -/
  | take (position : Nat)
  /-- Its write reaches the volume. -/
  | land (position : Nat)
  /-- Its write is given up. -/
  | stop (position : Nat)

namespace SlowStep

/-- The process after a step. -/
def next (provider : Provider σ) (node : SlowNode σ) : SlowStep σ → SlowNode σ
  | perform command =>
    let after := command.aftermath provider node.toNode
    { after with slow := node.slow.map (.beside after.own) }
  | begin connectionId => node.begin connectionId
  | take position => node.take position
  | land position => node.land position
  | stop position => node.stop position

/-- An operation stores no turn of a connection while a save of it has its write under way, save for
those whose end it does not wait for. -/
def InTime (provider : Provider σ) (unawaited : SlowSave → Bool) (node : SlowNode σ) :
    SlowStep σ → Prop
  | perform command => ∀ slow ∈ node.slow, slow.record?.isSome = true → unawaited slow = false →
      (command.aftermath provider node.toNode).storedTurn? slow.connectionId =
        node.storedTurn? slow.connectionId
  | _ => True

end SlowStep

namespace SlowNode

/-- The process after some steps. -/
def run (provider : Provider σ) : List (SlowStep σ) → SlowNode σ → SlowNode σ
  | [], node => node
  | step :: rest, node => run provider rest (step.next provider node)

/-- All of some steps are in time. -/
def InTime (provider : Provider σ) (unawaited : SlowSave → Bool) :
    List (SlowStep σ) → SlowNode σ → Prop
  | [], _ => True
  | step :: rest, node =>
    step.InTime provider unawaited node ∧ InTime provider unawaited rest (step.next provider node)

end SlowNode

/-! ### The invariant -/

/-- Whatever is written for a connection is not apart from the stored record by a turn, also what
is being written. -/
structure SlowNode.KeepsUp (origin : Volume) (node : SlowNode σ) : Prop where
  site : node.toSite.KeepsUp origin
  slow : ∀ slow ∈ node.slow, node.volume.KeepsUpWithSave slow.connectionId slow.save

theorem SlowSave.record?_eq_some {slow : SlowSave} {record : Record.SessionRecord} :
    slow.record? = some record ↔ slow.save.stage = .retrying record := by
  unfold record?
  cases slow.save.stage with
  | waiting => simp
  | retrying other => simp

/-- A record does not fall behind while the turns of the stored one stay. -/
theorem Volume.KeepsUpWith.of_storedTurn? {site later : Site} {connectionId : UInt32}
    {record : Record.ConnectionRecord} (keepsUp : site.volume.KeepsUpWith connectionId record)
    (same : later.storedTurn? connectionId = site.storedTurn? connectionId) :
    later.volume.KeepsUpWith connectionId record := by
  obtain ⟨stored, isStored, isOwn, fields⟩ := keepsUp.stored
  rw [Site.storedTurn?, Site.storedTurn?, isStored] at same
  obtain ⟨other, isOther, equal⟩ := Option.map_eq_some_iff.1 same
  obtain ⟨sameId, sameFields⟩ := Prod.mk.inj equal
  exact ⟨keepsUp.isOwn, keepsUp.kept, other, isOther, sameId.trans isOwn,
    (congrArg TurnFields.trimmed sameFields).trans fields⟩

namespace SlowNode.KeepsUp

variable {node : SlowNode σ}

theorem perform (keepsUp : node.KeepsUp origin) (command : Command σ)
    (inTime : (SlowStep.perform command).InTime provider (fun _ => false) node) :
    ((SlowStep.perform command).next provider node).KeepsUp origin where
  site := (command.moves provider node.toNode).keepsUp keepsUp.site
  slow := by
    intro slow member written stage
    obtain ⟨earlier, wasSlow, rfl⟩ := List.mem_map.1 member
    obtain ⟨record, isRecord, current⟩ := keepsUp.slow earlier wasSlow written stage
    have writes : earlier.record? = some written := SlowSave.record?_eq_some.2 stage
    exact ⟨record, isRecord, current.of_storedTurn?
      (inTime earlier wasSlow (Option.isSome_of_eq_some writes) rfl)⟩

theorem begin (keepsUp : node.KeepsUp origin) (connectionId : UInt32) :
    (node.begin connectionId).KeepsUp origin := by
  unfold SlowNode.begin
  split
  · exact keepsUp
  · rename_i save found
    refine ⟨keepsUp.site.settle connectionId none nofun, fun slow member => ?_⟩
    rcases List.mem_append.1 member with wasSlow | isNew
    · exact keepsUp.slow slow wasSlow
    · cases List.mem_singleton.1 isNew
      exact keepsUp.site.saves connectionId save found

/-- Some of the saves stay at work. -/
theorem fewer (keepsUp : node.KeepsUp origin) {slow : List SlowSave} (subset : slow ⊆ node.slow) :
    SlowNode.KeepsUp origin { node with slow := slow } :=
  ⟨keepsUp.site, fun _ member => keepsUp.slow _ (subset member)⟩

/-- A save at work goes on so that it does not fall behind. -/
theorem set (keepsUp : node.KeepsUp origin) (position : Nat) {slow : SlowSave}
    (current : node.volume.KeepsUpWithSave slow.connectionId slow.save) :
    SlowNode.KeepsUp origin { node with slow := node.slow.set position slow } := by
  refine ⟨keepsUp.site, fun other member => ?_⟩
  rcases List.mem_or_eq_of_mem_set member with wasSlow | rfl
  · exact keepsUp.slow other wasSlow
  · exact current

theorem take (keepsUp : node.KeepsUp origin) (position : Nat) :
    (node.take position).KeepsUp origin := by
  unfold SlowNode.take
  split
  · exact keepsUp
  · rename_i slow isSlow
    split
    · exact keepsUp.fewer List.eraseIdx_subset
    · rename_i written isRecord
      obtain ⟨record, rfl, current⟩ :=
        keepsUp.site.of_recordOf (keepsUp.slow slow (List.mem_of_getElem? isSlow)) isRecord
      exact keepsUp.set position (.of_retrying current rfl)

/-- The write of a replaced save was refused. -/
theorem leave (keepsUp : node.KeepsUp origin) (position : Nat) {slow : SlowSave}
    {rest : Option BackgroundSave}
    (goesOn : ∀ save, rest = some save → node.volume.KeepsUpWithSave slow.connectionId save) :
    SlowNode.KeepsUp origin
      { node with slow := SlowNode.leave position slow rest node.slow } := by
  unfold SlowNode.leave
  split
  · exact keepsUp.fewer List.eraseIdx_subset
  · split
    · exact keepsUp.set position (goesOn _ rfl)
    · exact keepsUp.fewer List.eraseIdx_subset

theorem withVolume (keepsUp : node.KeepsUp origin) {volume : Volume}
    (site : Site.KeepsUp origin { node.toSite with volume := volume })
    (monotone : ∀ connectionId record, node.volume.KeepsUpWith connectionId record →
      volume.KeepsUpWith connectionId record) :
    SlowNode.KeepsUp origin { node with volume := volume } where
  site := site
  slow slow member := (keepsUp.slow slow member).mono (monotone _)

theorem land (keepsUp : node.KeepsUp origin) (position : Nat) :
    (node.land position).KeepsUp origin := by
  unfold SlowNode.land
  split
  · exact keepsUp
  rename_i slow isSlow
  split
  · exact keepsUp
  rename_i written isWritten
  obtain ⟨record, rfl, current⟩ := keepsUp.slow slow (List.mem_of_getElem? isSlow) written
    (SlowSave.record?_eq_some.1 isWritten)
  split
  · rename_i volume accepted
    obtain ⟨accepts, rfl⟩ := Prod.mk.inj accepted
    exact (keepsUp.withVolume (keepsUp.site.accepted current accepts)
      (fun _ _ => current.write accepts)).fewer List.eraseIdx_subset
  · rename_i failure volume refused
    obtain ⟨refuses, rfl⟩ := Prod.mk.inj refused
    have same := Volume.sameConnections_of_refused refuses
    have after := keepsUp.withVolume (keepsUp.site.refused refuses) (fun _ _ => .congr same)
    split
    · exact after.leave position fun _ => .afterFailure (current.congr same)
    · exact ⟨after.site.settle slow.connectionId _ fun _ => .afterFailure (current.congr same),
        (after.fewer List.eraseIdx_subset).slow⟩

theorem next (keepsUp : node.KeepsUp origin) {step : SlowStep σ}
    (inTime : step.InTime provider (fun _ => false) node) :
    (step.next provider node).KeepsUp origin := by
  cases step with
  | perform command => exact keepsUp.perform command inTime
  | begin connectionId => exact keepsUp.begin connectionId
  | take position => exact keepsUp.take position
  | land position => exact keepsUp.land position
  | stop position => exact keepsUp.fewer List.eraseIdx_subset

theorem run (keepsUp : node.KeepsUp origin) {steps : List (SlowStep σ)}
    (inTime : SlowNode.InTime provider (fun _ => false) steps node) :
    (SlowNode.run provider steps node).KeepsUp origin := by
  induction steps generalizing node with
  | nil => exact keepsUp
  | cons step rest inductionHypothesis =>
    exact inductionHypothesis (keepsUp.next inTime.1) inTime.2

end SlowNode.KeepsUp

instance (unawaited : SlowSave → Bool) (node : SlowNode σ) :
    (step : SlowStep σ) → Decidable (step.InTime provider unawaited node)
  | .perform command => inferInstanceAs (Decidable (∀ slow ∈ node.slow,
      slow.record?.isSome = true → unawaited slow = false →
        (command.aftermath provider node.toNode).storedTurn? slow.connectionId =
          node.storedTurn? slow.connectionId))
  | .begin _ | .take _ | .land _ | .stop _ => .isTrue trivial

instance SlowNode.decidableInTime (unawaited : SlowSave → Bool) :
    (steps : List (SlowStep σ)) → (node : SlowNode σ) →
      Decidable (InTime provider unawaited steps node)
  | [], _ => .isTrue trivial
  | step :: rest, node =>
    have := decidableInTime unawaited rest (step.next provider node)
    inferInstanceAs (Decidable (step.InTime provider unawaited node ∧
      InTime provider unawaited rest (step.next provider node)))

end RatchetMessaging
