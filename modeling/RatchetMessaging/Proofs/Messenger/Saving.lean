import RatchetMessaging.Messenger.Saving
import RatchetMessaging.Proofs.Computation
import RatchetMessaging.Proofs.Messenger.BackgroundSave

/-!
Contract: what a critical save changes.

Owns:
- a critical save drops the background save for its slot; then time passes, and at last the record
  is stored, or the save comes to nothing, also between its writes;
- a critical save succeeds on a volume that accepts its writes, when nobody withdraws.

Does not own: the change that is committed after the save.
-/

namespace RatchetMessaging

variable {σ : Type} {node after : Node σ} {signal : CancelSignal σ} {slot : StoreSlot}
  {record : Record.SessionRecord} {failure : Error} {attempts left delay : Nat}

/-! ### Waits -/

theorem CancelSignal.check_eq_ok (checked : signal.check node = .ok () after) : node = after := by
  unfold check at checked
  split at checked
  · cases checked
  · cases checked
    rfl

theorem CancelSignal.check_eq_error (checked : signal.check node = .error failure after) :
    node = after := by
  unfold check at checked
  split at checked
  · cases checked
    rfl
  · cases checked

theorem CancelSignal.check_never (node : Node σ) :
    (CancelSignal.never : CancelSignal σ).check node = .ok () node := rfl

namespace Node

theorem waitUntil_lapses (signal : CancelSignal σ) (target : Nat) (node : Node σ) :
    node.toSite.Lapses (waitUntil signal target node).toSite := by
  have lapses := node.toSite.run_lapses (signal.trigger node.crypto)
    (((signal.wakeUp? target).map (· + 1)).getD target) node.clock
  unfold waitUntil
  simp only
  split
  · rename_i moment site ran
    rw [ran] at lapses
    exact lapses
  · rename_i site ran
    rw [ran] at lapses
    split <;> exact lapses

/-- A wait ends, or the signal ends it. Either way time has passed. -/
theorem wait_cases (signal : CancelSignal σ) (duration : Nat) (node : Node σ) :
    ∃ after, node.toSite.Lapses after.toSite ∧
      (wait signal duration node = .ok () after ∨ wait signal duration node =
        .error .cancelled after) := by
  unfold wait
  by_cases fired : signal.isFired node = true
  · exact ⟨node, .refl, .inr (if_pos fired)⟩
  · rw [if_neg fired]
    by_cases none : duration = 0
    · exact ⟨node, .refl, .inl (if_pos none)⟩
    · rw [if_neg none]
      refine ⟨_, waitUntil_lapses signal (waitEnd node.clock duration node.own.timer) node, ?_⟩
      by_cases wokenUp : signal.isFired
          (waitUntil signal (waitEnd node.clock duration node.own.timer) node)
      · exact .inr (if_pos wokenUp)
      · exact .inl (if_neg wokenUp)

/-! ### Writes -/

theorem tryWrite_eq (slot : StoreSlot) (record : Record.SessionRecord) (node : Node σ) :
    tryWrite slot record node = .ok (node.volume.write slot record).1
      { node with volume := (node.volume.write slot record).2 } := rfl

/-- Writing repeatedly comes to a write that succeeds, or to nothing but the passage of time. -/
theorem writeRepeatedly_cases (slot : StoreSlot) (record : Record.SessionRecord)
    (signal : CancelSignal σ) (attempts left delay : Nat) (node : Node σ) :
    (∃ ready : Node σ, node.toSite.Lapses ready.toSite ∧
      (ready.volume.write slot record).1 = none ∧
      writeRepeatedly slot record signal attempts left delay node =
        .ok () { ready with volume := (ready.volume.write slot record).2 }) ∨
    ∃ failure after, writeRepeatedly slot record signal attempts left delay node =
      .error failure after ∧ node.toSite.Lapses after.toSite := by
  induction left generalizing delay node with
  | zero => exact .inr ⟨_, _, rfl, .refl⟩
  | succ left inductionHypothesis =>
    unfold writeRepeatedly
    cases checked : signal.check node with
    | error failure after =>
      obtain rfl := CancelSignal.check_eq_error checked
      exact .inr ⟨_, _, Crypto.bind_of_error checked _, .refl⟩
    | ok value after =>
      obtain rfl := CancelSignal.check_eq_ok checked
      rw [Crypto.bind_of_ok checked, Crypto.bind_of_ok (tryWrite_eq slot record node)]
      cases outcome : (node.volume.write slot record).1 with
      | none => exact .inl ⟨node, .refl, outcome, rfl⟩
      | some reason =>
        have refused : node.toSite.Lapses
            { node.toSite with volume := (node.volume.write slot record).2 } :=
          .single (.refused outcome)
        by_cases isLast : left = 0
        · exact .inr ⟨_, _, by simp only [if_pos isLast]; rfl, refused⟩
        · simp only [if_neg isLast]
          obtain ⟨_, time, waited | waited⟩ := wait_cases signal delay
            { node with volume := (node.volume.write slot record).2 }
          · rw [Crypto.bind_of_ok waited]
            rcases inductionHypothesis (2 * delay) _ with
              ⟨ready, lapses, written, succeeded⟩ | ⟨_, _, failed, rest⟩
            · exact .inl ⟨ready, (refused.trans time).trans lapses, written, succeeded⟩
            · exact .inr ⟨_, _, failed, (refused.trans time).trans rest⟩
          · rw [Crypto.bind_of_error waited]
            exact .inr ⟨_, _, rfl, refused.trans time⟩

/-- On a volume that accepts the write the first attempt succeeds. -/
theorem writeRepeatedly_never (accepts : node.volume.writeFault node.volume.writes slot = none)
    (record : Record.SessionRecord) (attempts left delay : Nat) :
    ∃ after, writeRepeatedly slot record .never attempts (left + 1) delay node =
      .ok () after := by
  unfold writeRepeatedly
  rw [Crypto.bind_of_ok (CancelSignal.check_never node),
    Crypto.bind_of_ok (tryWrite_eq slot record node), Volume.write_of_no_fault accepts]
  exact ⟨_, rfl⟩

/-! ### Critical saves -/

/-- Nothing is left of a background save for the slot, and whatever else happens while it ends is
the passage of time. -/
theorem discardFor_eq (slot : StoreSlot) (node : Node σ) :
    ∃ after, discardFor slot node = .ok () after ∧
      Site.Lapses { node.toSite with own := node.own.dropping slot } after.toSite := by
  cases slot with
  | identity => exact ⟨node, rfl, .refl⟩
  | connection connectionId =>
    by_cases held : node.own.saves.contains connectionId = true
    · refine ⟨_, congrArg (EStateM.Result.ok ()) (if_pos held), ?_⟩
      exact Site.catchUp_lapses _ _
    · have unchanged : node.own.dropping (.connection connectionId) = node.own := by
        rw [Process.dropping, OrderedMap.erase_of_absent]
        simpa [OrderedMap.contains] using held
      refine ⟨_, congrArg (EStateM.Result.ok ()) (if_neg held), ?_⟩
      rw [unchanged]

theorem saveAttempts_pos (config : Config) : 0 < saveAttempts config :=
  Nat.lt_of_lt_of_le Nat.zero_lt_one (Nat.le_max_left _ _)

/-- A critical save drops the background save for its slot. Then time passes until it has stored
the record, or until it comes to nothing. -/
theorem saveCritical_cases (slot : StoreSlot) (record : Record.SessionRecord)
    (signal : CancelSignal σ) (node : Node σ) :
    (∃ ready : Node σ, Site.Lapses { node.toSite with own := node.own.dropping slot } ready.toSite ∧
      (ready.volume.write slot record).1 = none ∧
      saveCritical slot record signal node =
        .ok () { ready with volume := (ready.volume.write slot record).2 }) ∨
    ∃ (failure : Error) (after : Node σ),
      saveCritical slot record signal node = .error failure after ∧
      Site.Lapses { node.toSite with own := node.own.dropping slot } after.toSite := by
  obtain ⟨ready, discarded, lapses⟩ := discardFor_eq slot node
  unfold saveCritical
  rw [Crypto.bind_of_ok discarded]
  rcases writeRepeatedly_cases slot record signal (saveAttempts ready.own.messenger.config)
      (saveAttempts ready.own.messenger.config) ready.own.messenger.config.criticalSaveBackoff
      ready with ⟨last, rest, written, stored⟩ | ⟨failure, after, failed, rest⟩
  · exact .inl ⟨last, lapses.trans rest, written, stored⟩
  · exact .inr ⟨failure, after, failed, lapses.trans rest⟩

theorem saveCritical_eq_ok (saved : saveCritical slot record signal node = .ok () after) :
    ∃ ready : Node σ, Site.Lapses { node.toSite with own := node.own.dropping slot } ready.toSite ∧
      (ready.volume.write slot record).1 = none ∧
      after = { ready with volume := (ready.volume.write slot record).2 } := by
  rcases saveCritical_cases slot record signal node with
    ⟨ready, lapses, written, stored⟩ | ⟨_, _, failed, _⟩
  · rw [saved] at stored
    cases stored
    exact ⟨ready, lapses, written, rfl⟩
  · rw [saved] at failed
    cases failed

theorem saveCritical_eq_error
    (unsaved : saveCritical slot record signal node = .error failure after) :
    Site.Lapses { node.toSite with own := node.own.dropping slot } after.toSite := by
  rcases saveCritical_cases slot record signal node with
    ⟨_, _, _, stored⟩ | ⟨_, _, failed, lapses⟩
  · rw [unsaved] at stored
    cases stored
  · rw [unsaved] at failed
    cases failed
    exact lapses

/-- On a volume that accepts every write to the slot a critical save succeeds. -/
theorem saveCritical_succeeds
    (accepts : ∀ writes, node.volume.writeFault writes slot = none)
    (record : Record.SessionRecord) :
    ∃ after, saveCritical slot record .never node = .ok () after := by
  obtain ⟨ready, discarded, lapses⟩ := discardFor_eq slot node
  have stillAccepts : ready.volume.writeFault ready.volume.writes slot = none := by
    rw [lapses.passes.writeFault]
    exact accepts _
  obtain ⟨left, isSuccessor⟩ := Nat.exists_eq_succ_of_ne_zero
    (Nat.pos_iff_ne_zero.1 (saveAttempts_pos ready.own.messenger.config))
  obtain ⟨after, stored⟩ := writeRepeatedly_never stillAccepts record (left + 1) left
    ready.own.messenger.config.criticalSaveBackoff
  refine ⟨after, ?_⟩
  unfold saveCritical
  rw [Crypto.bind_of_ok discarded]
  change writeRepeatedly slot record .never (saveAttempts ready.own.messenger.config)
    (saveAttempts ready.own.messenger.config) _ ready = _
  rw [isSuccessor]
  exact stored

end Node

end RatchetMessaging
