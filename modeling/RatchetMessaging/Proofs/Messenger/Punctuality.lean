import RatchetMessaging.Proofs.Messenger.Sample
import RatchetMessaging.Proofs.Messenger.Timeline

/-!
Contract: no process ever leaves a background save behind its time.

Owns:
- `KeepsTime`, for an operation after which the process is punctual again, with success or with a
  failure, and that it passes from the steps of an operation to the whole;
- `run_punctual`: a process that starts without unfinished saves is punctual whatever is asked of
  it.

Does not own: what punctuality is.
-/

namespace RatchetMessaging

variable {σ α β : Type}

namespace Node

variable {node : Node σ}

/-- A process without unfinished saves is punctual. -/
theorem punctual_of_idle (idle : ∀ connectionId, node.own.saves.find? connectionId = none) :
    node.Punctual := by
  refine ⟨⟨fun first _ save _ found => ?_, fun connectionId save found => ?_⟩,
    fun connectionId save found => ?_⟩
  all_goals
    rw [idle] at found
    cases found

/-- What touches neither the saves nor the clock keeps a process punctual. -/
theorem Punctual.congr {after : Node σ} (punctual : node.Punctual)
    (saves : after.own.saves = node.own.saves) (others : after.others = node.others)
    (clock : after.clock = node.clock) : after.Punctual where
  inLine := by
    refine ⟨fun first second firstSave secondSave => ?_, fun connectionId save => ?_⟩
    · rw [saves]
      exact punctual.inLine.own first second firstSave secondSave
    · rw [saves, others]
      exact punctual.inLine.others connectionId save
  onTime := by
    intro connectionId save
    rw [saves, clock]
    exact punctual.onTime connectionId save

/-- After the operation the process is punctual again. -/
def KeepsTime (operation : Operation σ α) : Prop :=
  ∀ node : Node σ, node.Punctual → (leftBy operation node).Punctual

namespace KeepsTime

variable {first : Operation σ α} {next : α → Operation σ β}

theorem bind (keeps : KeepsTime first) (rest : ∀ value, KeepsTime (next value)) :
    KeepsTime (first >>= next) := by
  intro node punctual
  have middle := keeps node punctual
  cases performed : first node with
  | ok value after =>
    rw [leftBy_bind_of_ok performed]
    rw [leftBy, performed] at middle
    exact rest value after middle
  | error failure after =>
    rw [leftBy_bind_of_error performed]
    rw [leftBy, performed] at middle
    exact middle

/-- A step that leaves the saves and the clock alone. -/
theorem of_still {operation : Operation σ α}
    (still : ∀ node, (leftBy operation node).own.saves = node.own.saves ∧
      (leftBy operation node).others = node.others ∧
      (leftBy operation node).clock = node.clock) : KeepsTime operation :=
  fun node punctual => punctual.congr (still node).1 (still node).2.1 (still node).2.2

theorem pure (value : α) : KeepsTime (pure value : Operation σ α) :=
  fun _ punctual => punctual

theorem throw (failure : Error) : KeepsTime (throw failure : Operation σ α) :=
  fun _ punctual => punctual

theorem get : KeepsTime (get : Operation σ (Node σ)) := fun _ punctual => punctual

theorem messenger : KeepsTime (messenger : Operation σ Messenger) := fun _ punctual => punctual

theorem calling (call : Crypto σ α) : KeepsTime (calling call) := by
  refine .of_still fun node => ?_
  unfold leftBy Node.calling
  cases call node.crypto <;> exact ⟨rfl, rfl, rfl⟩

theorem checking (check : Except Error α) : KeepsTime (checking check : Operation σ α) := by
  cases check with
  | ok value => exact .pure value
  | error failure => exact .throw failure

theorem check (signal : CancelSignal σ) : KeepsTime signal.check := by
  refine .of_still fun node => ?_
  unfold leftBy CancelSignal.check
  by_cases fired : signal.isFired node = true
  · simp only [if_pos fired, true_and]
  · simp only [if_neg fired, true_and]

theorem modifyMessenger (change : Messenger → Messenger) :
    KeepsTime (modifyMessenger change : Operation σ Unit) :=
  .of_still fun _ => ⟨rfl, rfl, rfl⟩

theorem setIdentity (identity : Identity) :
    KeepsTime (setIdentity identity : Operation σ Unit) := .modifyMessenger _

theorem wait (signal : CancelSignal σ) (duration : Nat) : KeepsTime (wait signal duration) :=
  fun _ punctual => (wait_elapses signal duration punctual 0).punctual

theorem saveCritical (slot : StoreSlot) (record : Record.SessionRecord) (signal : CancelSignal σ) :
    KeepsTime (saveCritical slot record signal) :=
  fun _ punctual => (saveCritical_elapses punctual slot record 0).punctual

theorem discardSave (connectionId : UInt32) :
    KeepsTime (discardSave connectionId : Operation σ Unit) :=
  fun _ punctual => (discardFor_elapses punctual (.connection connectionId) 0).punctual

theorem scheduleSave (connectionId : UInt32) (serial : Nat) :
    KeepsTime (scheduleSave connectionId serial : Operation σ Unit) :=
  fun _ punctual => punctual.scheduling connectionId serial

end KeepsTime

end Node

/-- When every save has come to an end, none is overdue. -/
theorem Site.drain_onTime {site : Site} {clock : Nat} (inLine : site.InLine)
    (onTime : site.OnTime clock) :
    (site.drain clock).2.InLine ∧ (site.drain clock).2.OnTime (site.drain clock).1 := by
  unfold drain
  generalize site.work = steps
  induction steps generalizing site clock with
  | zero => exact ⟨inLine, onTime⟩
  | succ steps inductionHypothesis =>
    unfold drainWithin
    by_cases isEmpty : site.own.saves.entries.isEmpty = true
    · rw [if_pos isEmpty]
      exact ⟨inLine, onTime⟩
    · rw [if_neg isEmpty]
      cases isNext : site.next? with
      | none => exact ⟨inLine, onTime⟩
      | some save =>
        have reached : site.OnTime (max clock save.due) := fun connectionId own found =>
          Nat.max_le.2 ⟨onTime connectionId own found, due_le_of_next? isNext found⟩
        have caughtUp := catchUp_ran inLine reached
        exact inductionHypothesis caughtUp.inLine (caughtUp.onTime.mono (Nat.le_succ _))

namespace Node

theorem KeepsTime.flush : KeepsTime (flush : Operation σ Unit) := by
  intro node punctual
  change (if node.own.saves.entries.isEmpty then node
    else { node with
      toSite := (node.toSite.drain node.clock).2
      clock := (node.toSite.drain node.clock).1
      gaveWay := true }).Punctual
  by_cases isEmpty : node.own.saves.entries.isEmpty = true
  · rw [if_pos isEmpty]
    exact punctual
  · rw [if_neg isEmpty]
    obtain ⟨inLine, onTime⟩ := Site.drain_onTime punctual.inLine punctual.onTime
    exact ⟨inLine, onTime⟩

/-! ### Commands -/

theorem keepsTime_openAsInitiator (provider : Provider σ) (connectionId : UInt32)
    (bundle : Bundle) : KeepsTime (openAsInitiator provider connectionId bundle) := by
  unfold openAsInitiator
  refine .bind .messenger fun _ => .bind .messenger fun _ => .bind (.calling _) fun _ => ?_
  refine .bind (.setIdentity _) fun _ => .bind (.calling _) fun _ => ?_
  refine .bind (.setIdentity _) fun _ => .bind (.calling _) fun _ => ?_
  exact .bind (.checking _) fun _ => .pure _

theorem keepsTime_openAsResponder (provider : Provider σ) (connectionId : UInt32) (hello : Hello) :
    KeepsTime (openAsResponder provider connectionId hello) := by
  unfold openAsResponder
  refine .bind .messenger fun _ => .bind .messenger fun _ => .bind (.calling _) fun _ => ?_
  exact .bind (.checking _) fun _ => .calling _

theorem keepsTime_identityAfter (provider : Provider σ) (hello : Hello) :
    KeepsTime (identityAfter provider hello) := by
  unfold identityAfter
  refine .bind .messenger fun _ => .bind .messenger fun _ => .bind (.calling _) fun _ => ?_
  simp only
  split
  · exact .bind (.calling _) fun _ => .bind (.checking _) fun _ => .pure _
  · exact .pure _

theorem keepsTime_replaceIdentity (identity : Identity) (signal : CancelSignal σ) :
    KeepsTime (replaceIdentity identity signal) := by
  unfold replaceIdentity
  exact .bind (.checking _) fun _ => .bind (.saveCritical _ _ _) fun _ => .setIdentity _

theorem keepsTime_storeAndInstall (connectionId : UInt32) (connection : Connection)
    (signal : CancelSignal σ) : KeepsTime (storeAndInstall connectionId connection signal) := by
  unfold storeAndInstall
  exact .bind (.checking _) fun _ => .bind (.saveCritical _ _ _) fun _ => .modifyMessenger _

theorem keepsTime_settle (connectionId : UInt32) (live : LiveConnection) (staged : Staged)
    (signal : CancelSignal σ) : KeepsTime (settle connectionId live staged signal) := by
  unfold settle commitTo
  split
  · exact .bind (.check _) fun _ => .bind (.saveCritical _ _ _) fun _ => .modifyMessenger _
  · exact .bind (.modifyMessenger _) fun _ => .scheduleSave _ _

theorem keepsTime_rotateSignedPreKey (provider : Provider σ) (patience : Nat)
    (signal : CancelSignal σ) : KeepsTime (rotateSignedPreKey provider patience signal) := by
  unfold rotateSignedPreKey
  refine .bind .messenger fun _ => .bind (.calling _) fun _ => .bind (.calling _) fun rotated => ?_
  cases rotated with
  | none => exact .pure _
  | some replacement => exact .bind (keepsTime_replaceIdentity _ _) fun _ => .pure _

end Node

theorem Command.keepsTime_perform (provider : Provider σ) (command : Command σ) :
    Node.KeepsTime (command.perform provider) := by
  cases command with
  | saveIdentity signal =>
    refine .bind ?_ fun _ => .pure _
    exact .bind .messenger fun _ => .bind (.checking _) fun _ => .saveCritical _ _ _
  | initiate connectionId bundle signal =>
    refine .bind ?_ fun _ => .pure _
    refine .bind (.check _) fun _ => .bind (Node.keepsTime_openAsInitiator _ _ _) fun _ => ?_
    refine .bind (.check _) fun _ => .bind (Node.keepsTime_storeAndInstall _ _ _) fun _ => ?_
    exact .pure _
  | accept connectionId hello signal =>
    refine .bind ?_ fun _ => .pure _
    refine .bind (.check _) fun _ => .bind (Node.keepsTime_openAsResponder _ _ _) fun _ => ?_
    refine .bind (.check _) fun _ => .bind (Node.keepsTime_identityAfter _ _) fun _ => ?_
    exact .bind (Node.keepsTime_replaceIdentity _ _) fun _ => Node.keepsTime_storeAndInstall _ _ _
  | encrypt connectionId plaintext associatedData signal =>
    refine .bind ?_ fun _ => .pure _
    refine .bind .messenger fun _ => .bind (.checking _) fun _ => .bind (.calling _) fun _ => ?_
    exact .bind (Node.keepsTime_settle _ _ _ _) fun _ => .pure _
  | decrypt connectionId message associatedData signal =>
    refine .bind ?_ fun _ => .pure _
    refine .bind .messenger fun _ => .bind (.checking _) fun _ => .bind (.calling _) fun _ => ?_
    exact .bind (Node.keepsTime_settle _ _ _ _) fun _ => .pure _
  | forceRatchet connectionId =>
    refine .bind ?_ fun _ => .pure _
    refine .bind .messenger fun _ => .bind (.checking _) fun _ => .bind (.checking _) fun _ => ?_
    exact .modifyMessenger _
  | restore connectionId =>
    refine .bind ?_ fun _ => .pure _
    refine .bind .get fun _ => .bind (.checking _) fun _ => .bind (.checking _) fun _ => ?_
    exact .bind .messenger fun _ => .bind (.calling _) fun _ => .modifyMessenger _
  | close connectionId =>
    refine .bind ?_ fun _ => .pure _
    refine .bind .messenger fun _ => .bind (.checking _) fun _ => ?_
    exact .bind (.modifyMessenger _) fun _ => .discardSave _
  | rotate patience signal =>
    exact .bind (Node.keepsTime_rotateSignedPreKey _ _ _) fun _ => .pure _
  | flush => exact .bind .flush fun _ => .pure _
  | wait duration => exact .bind (.wait _ _) fun _ => .pure _

theorem Command.aftermath_eq (provider : Provider σ) (command : Command σ) (node : Node σ) :
    command.aftermath provider node =
      Node.leftBy (command.perform provider) { node with gaveWay := false } := by
  unfold aftermath result Node.leftBy
  cases command.perform provider { node with gaveWay := false } <;> rfl

/-- Whatever is asked of a punctual process, it stays punctual. -/
theorem run_punctual (provider : Provider σ) (commands : List (Command σ)) {node : Node σ}
    (punctual : node.Punctual) : (run provider commands node).Punctual := by
  induction commands generalizing node with
  | nil => exact punctual
  | cons command rest inductionHypothesis =>
    have kept := command.keepsTime_perform provider _ punctual.beginning
    rw [← command.aftermath_eq provider node] at kept
    exact inductionHypothesis kept

theorem Node.sampleConnected_punctual (config : Config) (refused : Nat) :
    (sampleConnected config refused).Punctual := by
  have starts : (sampleStart config).Punctual := punctual_of_idle fun _ => rfl
  exact (run_punctual .transparent [.initiate 1 .sample .never] starts).congr rfl rfl rfl

end RatchetMessaging
