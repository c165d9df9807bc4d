import RatchetMessaging.Proofs.Messenger.Saving

/-!
Contract: background saves that all come to their ends.

Owns:
- `Site.Working`, a process alone at a volume that accepts every write;
- each step of a save is then its last, so a flush leaves no unfinished save.

Does not own: what the saves write.
-/

namespace RatchetMessaging

/-! ### The order of the saves -/

namespace BackgroundSave

theorem mem_of_foremost? {saves : List BackgroundSave} {save : BackgroundSave}
    (isForemost : foremost? saves = some save) : save ∈ saves := by
  induction saves generalizing save with
  | nil => cases isForemost
  | cons first rest inductionHypothesis =>
    unfold foremost? at isForemost
    split at isForemost
    · cases isForemost
      exact List.mem_cons_self
    · rename_i other isOther
      split at isForemost
      · cases isForemost
        exact List.mem_cons_of_mem _ (inductionHypothesis isOther)
      · cases isForemost
        exact List.mem_cons_self

theorem foremost?_eq_none {saves : List BackgroundSave} (isNone : foremost? saves = none) :
    saves = [] := by
  cases saves with
  | nil => rfl
  | cons first rest =>
    unfold foremost? at isNone
    split at isNone
    · cases isNone
    · split at isNone <;> cases isNone

end BackgroundSave

/-- Every save may still take a step. -/
theorem Process.size_le_work (process : Process) : process.saves.size ≤ process.work := by
  have counted : ∀ (saves : List BackgroundSave) (total : Nat), total + saves.length ≤
      saves.foldl (fun total save => total + (save.attemptsLeft + 1)) total := by
    intro saves
    induction saves with
    | nil => exact fun total => Nat.le_refl total
    | cons first rest inductionHypothesis =>
      intro total
      have restCounted := inductionHypothesis (total + (first.attemptsLeft + 1))
      rw [List.foldl_cons, List.length_cons]
      omega
  have ofAll := counted process.saves.values 0
  rw [Nat.zero_add, OrderedMap.values, List.length_map] at ofAll
  exact ofAll

namespace Site

variable {site : Site}

theorem size_le_work (site : Site) : site.own.saves.size ≤ site.work := by
  have grows : ∀ (others : List Process) (total : Nat),
      total ≤ others.foldl (fun total process => total + process.work) total := by
    intro others
    induction others with
    | nil => exact fun total => Nat.le_refl total
    | cons first rest inductionHypothesis =>
      exact fun total => Nat.le_trans (Nat.le_add_right _ _) (inductionHypothesis _)
  exact Nat.le_trans site.own.size_le_work (grows _ _)

/-- A process alone at a volume that accepts every write. -/
structure Working (site : Site) : Prop where
  alone : ∀ process ∈ site.others, process.saves = .empty
  accepts : ∀ writes slot, site.volume.writeFault writes slot = none

namespace Working

theorem not_refused (working : site.Working) {slot : StoreSlot} {record : Record.SessionRecord}
    {failure : Error} : (site.volume.write slot record).1 ≠ some failure := by
  rw [Volume.write_of_no_fault (working.accepts _ _)]
  exact nofun

theorem mem_of_next? (working : site.Working) {save : BackgroundSave}
    (isNext : site.next? = some save) : ∃ entry ∈ site.own.saves.entries, entry.2 = save := by
  have member := BackgroundSave.mem_of_foremost? isNext
  simp only [saves, List.mem_flatMap, List.mem_cons] at member
  obtain ⟨process, rfl | isOther, isSave⟩ := member
  · exact List.mem_map.1 isSave
  · rw [working.alone process isOther] at isSave
    cases isSave

theorem saveAt?_of_next? (working : site.Working) {save : BackgroundSave}
    (isNext : site.next? = some save) : ∃ entry, site.own.saveAt? save.turn = some entry := by
  obtain ⟨entry, member, rfl⟩ := working.mem_of_next? isNext
  refine Option.isSome_iff_exists.1 (List.find?_isSome.2 ⟨entry, member, ?_⟩)
  exact decide_eq_true rfl

theorem nonempty_of_next? (working : site.Working) {save : BackgroundSave}
    (isNext : site.next? = some save) : 0 < site.own.saves.size := by
  obtain ⟨entry, member, _⟩ := working.mem_of_next? isNext
  exact List.length_pos_of_mem member

theorem empty_of_next? (isNone : site.next? = none) : site.own.saves.size = 0 := by
  have noSaves : site.own.saves.values ++ _ = [] := BackgroundSave.foremost?_eq_none isNone
  have noValues := congrArg List.length (List.append_eq_nil_iff.1 noSaves).1
  rwa [OrderedMap.values, List.length_map] at noValues

/-- The step of a save ends it. -/
theorem fire (working : site.Working) (turn : Nat) :
    (site.fire turn).Working ∧ (site.fire turn).own.saves.size ≤ site.own.saves.size ∧
      ∀ entry, site.own.saveAt? turn = some entry →
        (site.fire turn).own.saves.size < site.own.saves.size := by
  unfold Site.fire
  cases found : site.own.saveAt? turn with
  | none =>
    simp only [fireAmong_of_idle working.alone]
    exact ⟨working, Nat.le_refl _, nofun⟩
  | some entry =>
    have ends : (site.own.settle entry.1 none).saves.size < site.own.saves.size :=
      OrderedMap.size_erase_lt (Process.contains_of_saveAt? found)
    rcases site.own.fire_cases entry.1 entry.2 site.nextTurn site.volume with
      ⟨_, stepped⟩ | ⟨record, _, ⟨_, stepped⟩ | ⟨_, refused, _⟩⟩
    · simp only [stepped]
      exact ⟨⟨working.alone, working.accepts⟩, Nat.le_of_lt ends, fun _ _ => ends⟩
    · simp only [stepped]
      refine ⟨⟨working.alone, ?_⟩, Nat.le_of_lt ends, fun _ _ => ends⟩
      exact (Volume.writeFault_write site.volume _ record) ▸ working.accepts
    · exact absurd refused working.not_refused

theorem catchUpWithin (working : site.Working) (clock steps : Nat) :
    (site.catchUpWithin clock steps).Working ∧
      (site.catchUpWithin clock steps).own.saves.size ≤ site.own.saves.size := by
  induction steps generalizing site with
  | zero => exact ⟨working, Nat.le_refl _⟩
  | succ steps inductionHypothesis =>
    unfold Site.catchUpWithin
    cases site.next? with
    | none => exact ⟨working, Nat.le_refl _⟩
    | some save =>
      by_cases isDue : save.due ≤ clock
      · simp only [isDue, if_true]
        obtain ⟨stillWorking, fewer, _⟩ := working.fire save.turn
        obtain ⟨worksOn, restFewer⟩ := inductionHypothesis stillWorking
        exact ⟨worksOn, Nat.le_trans restFewer fewer⟩
      · simp only [isDue, if_false]
        exact ⟨working, Nat.le_refl _⟩

/-- A moment at which a save is due ends a save. -/
theorem catchUp (working : site.Working) {save : BackgroundSave} {clock : Nat}
    (isNext : site.next? = some save) (isDue : save.due ≤ clock) :
    (site.catchUp clock).Working ∧
      (site.catchUp clock).own.saves.size < site.own.saves.size := by
  have someWork : 0 < site.work :=
    Nat.lt_of_lt_of_le (working.nonempty_of_next? isNext) site.size_le_work
  obtain ⟨steps, isWork⟩ := Nat.exists_eq_succ_of_ne_zero (Nat.pos_iff_ne_zero.1 someWork)
  obtain ⟨entry, found⟩ := working.saveAt?_of_next? isNext
  obtain ⟨stillWorking, _, fewer⟩ := working.fire save.turn
  obtain ⟨worksOn, restFewer⟩ := stillWorking.catchUpWithin clock steps
  rw [Site.catchUp, isWork, Site.catchUpWithin, isNext]
  simp only [isDue, if_true]
  exact ⟨worksOn, Nat.lt_of_le_of_lt restFewer (fewer entry found)⟩

theorem drainWithin (working : site.Working) {steps : Nat}
    (enough : site.own.saves.size ≤ steps) (clock : Nat) :
    (site.drainWithin steps clock).2.own.saves.size = 0 := by
  induction steps generalizing site clock with
  | zero => exact Nat.le_zero.1 enough
  | succ steps inductionHypothesis =>
    unfold Site.drainWithin
    by_cases isEmpty : site.own.saves.entries.isEmpty = true
    · rw [if_pos isEmpty]
      exact List.length_eq_zero_iff.2 (List.isEmpty_iff.1 isEmpty)
    · rw [if_neg isEmpty]
      cases isNext : site.next? with
      | none => exact empty_of_next? isNext
      | some save =>
        -- Every round ends a save, so the steps that are left stay enough.
        obtain ⟨stillWorking, fewer⟩ :=
          working.catchUp isNext (Nat.le_max_right clock save.due)
        exact inductionHypothesis stillWorking (by omega) _

end Working

end Site

/-- A flush leaves no unfinished save, and does nothing but let time pass. -/
theorem Node.flush_ends {σ : Type} {node : Node σ} (working : node.toSite.Working) :
    ∃ after, flush node = .ok () after ∧ node.toSite.Lapses after.toSite ∧
      ∀ connectionId, after.own.saves.find? connectionId = none := by
  have ended : ∀ {saves : NumberMap BackgroundSave}, saves.size = 0 →
      ∀ connectionId, saves.find? connectionId = none := by
    intro saves isEmpty connectionId
    rw [OrderedMap.find?, List.length_eq_zero_iff.1 isEmpty]
    rfl
  by_cases isEmpty : node.own.saves.entries.isEmpty = true
  · refine ⟨node, congrArg (EStateM.Result.ok ()) (if_pos isEmpty), .refl, ended ?_⟩
    exact List.length_eq_zero_iff.2 (List.isEmpty_iff.1 isEmpty)
  · exact ⟨_, congrArg (EStateM.Result.ok ()) (if_neg isEmpty), node.toSite.drain_lapses _,
      ended (working.drainWithin node.toSite.size_le_work node.clock)⟩

end RatchetMessaging
