import Mathlib.Algebra.Ring.Nat
import RatchetMessaging.Proofs.Messenger.Drain

/-!
Contract: background saves stand in line, and each gets its turn.

Owns:
- the save that goes first is due before all others;
- `Site.InLine`, for a site where every save of the process at work has a turn of its own, which is
  kept by every step of a save;
- every step of a save reduces the work that is left, so the steps due by a moment are all taken.

Does not own: what the saves write.
-/

namespace RatchetMessaging

/-! ### First in line -/

namespace BackgroundSave

variable {saves : List BackgroundSave} {save : BackgroundSave}

theorem due_le_of_precedes {other : BackgroundSave} (first : save.precedes other = true) :
    save.due ≤ other.due := by
  simp only [precedes, Bool.or_eq_true, decide_eq_true_eq, Bool.and_eq_true] at first
  omega

theorem due_le_of_not_precedes {other : BackgroundSave} (notFirst : ¬ save.precedes other = true) :
    other.due ≤ save.due := by
  simp only [precedes, Bool.or_eq_true, decide_eq_true_eq, Bool.and_eq_true, not_or] at notFirst
  omega

/-- No save is due before the foremost one. -/
theorem due_le_of_foremost? (isForemost : foremost? saves = some save) :
    ∀ other ∈ saves, save.due ≤ other.due := by
  induction saves generalizing save with
  | nil => cases isForemost
  | cons first rest inductionHypothesis =>
    unfold foremost? at isForemost
    intro other member
    cases isRest : foremost? rest with
    | none =>
      rw [isRest] at isForemost
      cases isForemost
      rw [foremost?_eq_none isRest] at member
      exact Nat.le_of_eq (congrArg due (List.mem_singleton.1 member).symm)
    | some next =>
      have ofRest := inductionHypothesis isRest
      rw [isRest] at isForemost
      simp only at isForemost
      by_cases precedes : next.precedes first = true
      · rw [if_pos precedes] at isForemost
        cases isForemost
        rcases List.mem_cons.1 member with rfl | later
        · exact due_le_of_precedes precedes
        · exact ofRest other later
      · rw [if_neg precedes] at isForemost
        cases isForemost
        rcases List.mem_cons.1 member with rfl | later
        · exact Nat.le_refl _
        · exact Nat.le_trans (due_le_of_not_precedes precedes) (ofRest other later)

/-- The next turn is behind all turns. -/
theorem lt_nextTurn (member : save ∈ saves) : save.turn < nextTurn saves := by
  have grows : ∀ (saves : List BackgroundSave) (turn : Nat),
      turn ≤ saves.foldl (fun turn save => max turn (save.turn + 1)) turn := by
    intro saves
    induction saves with
    | nil => exact fun turn => Nat.le_refl turn
    | cons first rest inductionHypothesis =>
      exact fun turn => Nat.le_trans (Nat.le_max_left _ _) (inductionHypothesis _)
  have behind : ∀ (saves : List BackgroundSave) (turn : Nat), save ∈ saves →
      save.turn < saves.foldl (fun turn save => max turn (save.turn + 1)) turn := by
    intro saves
    induction saves with
    | nil => exact nofun
    | cons first rest inductionHypothesis =>
      intro turn isIn
      rcases List.mem_cons.1 isIn with rfl | later
      · exact Nat.lt_of_lt_of_le (Nat.lt_succ_self _)
          (Nat.le_trans (Nat.le_max_right turn _) (grows rest _))
      · exact inductionHypothesis _ later
  exact behind saves 0 member

end BackgroundSave

/-! ### What is left of a save -/

namespace Process

variable {process : Process} {connectionId : UInt32} {save : BackgroundSave}

theorem mem_values_iff : save ∈ process.saves.values ↔
    ∃ connectionId, process.saves.find? connectionId = some save := by
  unfold OrderedMap.values
  constructor
  · intro member
    obtain ⟨entry, isEntry, rfl⟩ := List.mem_map.1 member
    exact ⟨entry.1, OrderedMap.find?_eq_some_iff.2 isEntry⟩
  · rintro ⟨connectionId, found⟩
    exact List.mem_map_of_mem (f := Prod.snd) (OrderedMap.find?_eq_some_iff.1 found)

/-- What a step may leave of a save: it has fewer writes to try, it is due no earlier, and it has
kept its turn or waits at the later one. -/
structure LeftOf (save : BackgroundSave) (later : Nat) (left : BackgroundSave) : Prop where
  attempts : left.attemptsLeft < save.attemptsLeft
  due : save.due ≤ left.due
  turn : left.turn = save.turn ∨ left.turn = later

theorem leftOf_afterFailure {timer : Timer} {later : Nat} {record : Record.SessionRecord}
    {left : BackgroundSave} (isLeft : save.afterFailure timer later record = some left) :
    LeftOf save later left := by
  unfold BackgroundSave.afterFailure at isLeft
  split at isLeft
  · cases isLeft
  · rename_i moreThanOne
    cases isLeft
    refine ⟨Nat.sub_lt (by omega) Nat.one_pos, Nat.le_add_right _ _, ?_⟩
    by_cases keeps : save.delay = 0
    · exact .inl (if_pos keeps)
    · exact .inr (if_neg keeps)

/-- The step of a save puts what is left of it in its place. -/
theorem fire_settles (process : Process) (connectionId : UInt32) (save : BackgroundSave)
    (later : Nat) (volume : Volume) :
    ∃ rest, (process.fire connectionId save later volume).1 = process.settle connectionId rest ∧
      ∀ left, rest = some left → LeftOf save later left := by
  rcases process.fire_cases connectionId save later volume with
    ⟨_, fired⟩ | ⟨record, _, ⟨_, fired⟩ | ⟨_, _, fired⟩⟩
  · exact ⟨none, congrArg Prod.fst fired, nofun⟩
  · exact ⟨none, congrArg Prod.fst fired, nofun⟩
  · exact ⟨_, congrArg Prod.fst fired, fun _ => leftOf_afterFailure⟩

/-! ### Work -/

theorem foldl_add_eq {α : Type} (measure : α → Nat) (items : List α) (total : Nat) :
    items.foldl (fun total item => total + measure item) total =
      total + (items.map measure).sum := by
  induction items generalizing total with
  | nil => rfl
  | cons first rest inductionHypothesis =>
    rw [List.foldl_cons, inductionHypothesis, List.map_cons, List.sum_cons, Nat.add_assoc]

theorem work_eq (process : Process) :
    process.work =
      (process.saves.entries.map fun entry => entry.2.attemptsLeft + 1).sum := by
  unfold work OrderedMap.values
  rw [foldl_add_eq (fun save : BackgroundSave => save.attemptsLeft + 1), Nat.zero_add, List.map_map]
  rfl

/-- Less is left after a save has taken a step. -/
theorem work_settle_lt (found : process.saves.find? connectionId = some save)
    {rest : Option BackgroundSave}
    (fewer : ∀ left, rest = some left → left.attemptsLeft < save.attemptsLeft) :
    (process.settle connectionId rest).work < process.work := by
  rw [work_eq, work_eq]
  have before := ((OrderedMap.perm_erase_of_found found).map
    fun entry => entry.2.attemptsLeft + 1).sum_nat
  simp only [List.map_cons, List.sum_cons] at before
  cases rest with
  | none =>
    change ((process.saves.erase connectionId).entries.map _).sum < _
    omega
  | some left =>
    have after := ((OrderedMap.perm_insert process.saves connectionId left).map
      fun entry => entry.2.attemptsLeft + 1).sum_nat
    simp only [List.map_cons, List.sum_cons] at after
    have fewerLeft := fewer left rfl
    change ((process.saves.insert connectionId left).entries.map _).sum < _
    omega

theorem found_of_saveAt? {turn : Nat}
    (found : process.saveAt? turn = some (connectionId, save)) :
    process.saves.find? connectionId = some save ∧ save.turn = turn := by
  refine ⟨OrderedMap.find?_eq_some_iff.2 (List.mem_of_find?_eq_some found), ?_⟩
  simpa using List.find?_some found

theorem work_fire_lt {turn : Nat} (found : process.saveAt? turn = some (connectionId, save))
    (later : Nat) (volume : Volume) :
    (process.fire connectionId save later volume).1.work < process.work := by
  obtain ⟨rest, fired, leaves⟩ := process.fire_settles connectionId save later volume
  rw [fired]
  exact work_settle_lt (found_of_saveAt? found).1 fun left isLeft => (leaves left isLeft).attempts

theorem saveAt?_isSome (member : save ∈ process.saves.values) :
    ∃ entry, process.saveAt? save.turn = some entry := by
  obtain ⟨entry, isEntry, rfl⟩ := List.mem_map.1 member
  exact Option.isSome_iff_exists.1 (List.find?_isSome.2 ⟨entry, isEntry, decide_eq_true rfl⟩)

end Process

namespace Site

variable {site : Site} {save : BackgroundSave}

theorem work_eq (site : Site) : site.work = site.own.work + (site.others.map Process.work).sum :=
  Process.foldl_add_eq Process.work site.others site.own.work

theorem work_fireAmong_lt {turn : Nat} {processes : List Process}
    (held : ∃ process ∈ processes, ∃ entry, process.saveAt? turn = some entry) (later : Nat)
    (volume : Volume) :
    ((fireAmong turn later processes volume).1.map Process.work).sum <
      (processes.map Process.work).sum := by
  induction processes with
  | nil =>
    obtain ⟨_, member, _⟩ := held
    cases member
  | cons process rest inductionHypothesis =>
    unfold fireAmong
    rw [List.map_cons, List.sum_cons]
    cases found : process.saveAt? turn with
    | some entry =>
      simp only [List.map_cons, List.sum_cons]
      exact Nat.add_lt_add_right (Process.work_fire_lt found later volume) _
    | none =>
      simp only [List.map_cons, List.sum_cons]
      refine Nat.add_lt_add_left (inductionHypothesis ?_) _
      obtain ⟨holder, member, entry, isEntry⟩ := held
      rcases List.mem_cons.1 member with rfl | isRest
      · rw [found] at isEntry
        cases isEntry
      · exact ⟨holder, isRest, entry, isEntry⟩

theorem mem_saves_iff :
    save ∈ site.saves ↔ ∃ process ∈ site.own :: site.others, save ∈ process.saves.values := by
  exact List.mem_flatMap

/-- Every step reduces the work. -/
theorem work_fire_lt (isNext : site.next? = some save) :
    (site.fire save.turn).work < site.work := by
  obtain ⟨process, member, isSave⟩ := mem_saves_iff.1 (BackgroundSave.mem_of_foremost? isNext)
  obtain ⟨entry, isEntry⟩ := Process.saveAt?_isSome isSave
  unfold fire
  rw [work_eq, work_eq]
  cases found : site.own.saveAt? save.turn with
  | some own => exact Nat.add_lt_add_right (Process.work_fire_lt found _ _) _
  | none =>
    refine Nat.add_lt_add_left (work_fireAmong_lt ?_ _ _) _
    rcases List.mem_cons.1 member with rfl | isOther
    · rw [found] at isEntry
      cases isEntry
    · exact ⟨process, isOther, entry, isEntry⟩

theorem next?_eq_none_of_work (noWork : site.work = 0) : site.next? = none := by
  cases isNext : site.next? with
  | none => rfl
  | some save =>
    have fewer := work_fire_lt isNext
    omega

/-! ### A turn for every save -/

/-- Every save of the process at work has a turn of its own. -/
structure InLine (site : Site) : Prop where
  own : ∀ first second firstSave secondSave, site.own.saves.find? first = some firstSave →
    site.own.saves.find? second = some secondSave → firstSave.turn = secondSave.turn →
    first = second
  others : ∀ connectionId save, site.own.saves.find? connectionId = some save →
    ∀ process ∈ site.others, ∀ other ∈ process.saves.values, save.turn ≠ other.turn

theorem lt_nextTurn_of_own {connectionId : UInt32}
    (found : site.own.saves.find? connectionId = some save) : save.turn < site.nextTurn :=
  BackgroundSave.lt_nextTurn (mem_saves_iff.2
    ⟨site.own, List.mem_cons_self, Process.mem_values_iff.2 ⟨connectionId, found⟩⟩)

theorem lt_nextTurn_of_other {process : Process} (isOther : process ∈ site.others)
    (member : save ∈ process.saves.values) : save.turn < site.nextTurn :=
  BackgroundSave.lt_nextTurn
    (mem_saves_iff.2 ⟨process, List.mem_cons_of_mem _ isOther, member⟩)

/-- A step makes no turn but the later one. -/
theorem turn_of_mem_fire {process : Process} {connectionId : UInt32} {turn later : Nat}
    {volume : Volume} {left : BackgroundSave}
    (found : process.saveAt? turn = some (connectionId, save))
    (member : left ∈ (process.fire connectionId save later volume).1.saves.values) :
    left.turn = later ∨ ∃ old ∈ process.saves.values, left.turn = old.turn := by
  obtain ⟨rest, fired, leaves⟩ := process.fire_settles connectionId save later volume
  rw [fired] at member
  obtain ⟨otherId, isSave⟩ := Process.mem_values_iff.1 member
  by_cases same : connectionId = otherId
  · subst same
    rw [Process.find?_saves_settle_self] at isSave
    rcases (leaves left isSave).turn with kept | moved
    · exact .inr ⟨save, Process.mem_values_iff.2 ⟨_, (Process.found_of_saveAt? found).1⟩, kept⟩
    · exact .inl moved
  · rw [Process.find?_saves_settle_other same] at isSave
    exact .inr ⟨left, Process.mem_values_iff.2 ⟨otherId, isSave⟩, rfl⟩

theorem turn_of_mem_fireAmong {turn later : Nat} {processes : List Process} {volume : Volume}
    {process : Process} (isProcess : process ∈ (fireAmong turn later processes volume).1)
    {left : BackgroundSave} (member : left ∈ process.saves.values) :
    left.turn = later ∨
      ∃ old ∈ processes, ∃ save ∈ old.saves.values, left.turn = save.turn := by
  induction processes with
  | nil => cases isProcess
  | cons first rest inductionHypothesis =>
    unfold fireAmong at isProcess
    cases found : first.saveAt? turn with
    | some entry =>
      rw [found] at isProcess
      rcases List.mem_cons.1 isProcess with rfl | isRest
      · refine (turn_of_mem_fire found member).imp_right fun old => ?_
        obtain ⟨save, isOld, same⟩ := old
        exact ⟨first, List.mem_cons_self, save, isOld, same⟩
      · exact .inr ⟨process, List.mem_cons_of_mem _ isRest, left, member, rfl⟩
    | none =>
      rw [found] at isProcess
      rcases List.mem_cons.1 isProcess with rfl | isRest
      · exact .inr ⟨process, List.mem_cons_self, left, member, rfl⟩
      · refine (inductionHypothesis isRest).imp_right fun old => ?_
        obtain ⟨holder, isHolder, rest⟩ := old
        exact ⟨holder, List.mem_cons_of_mem _ isHolder, rest⟩

namespace InLine

/-- The save that takes its turn is the foremost one, if it is one of the process at work. -/
theorem saveAt?_eq (inLine : site.InLine) (isNext : site.next? = some save)
    {connectionId : UInt32} {fired : BackgroundSave}
    (found : site.own.saveAt? save.turn = some (connectionId, fired)) : fired = save := by
  obtain ⟨isOwn, sameTurn⟩ := Process.found_of_saveAt? found
  obtain ⟨process, member, isSave⟩ := mem_saves_iff.1 (BackgroundSave.mem_of_foremost? isNext)
  rcases List.mem_cons.1 member with rfl | isOther
  · obtain ⟨saveId, isFound⟩ := Process.mem_values_iff.1 isSave
    have same := inLine.own connectionId saveId fired save isOwn isFound sameTurn
    rw [same, isFound] at isOwn
    exact (Option.some.inj isOwn).symm
  · exact absurd sameTurn (inLine.others connectionId fired isOwn process isOther save isSave)

/-- Every step keeps the line. -/
theorem fire (inLine : site.InLine) (turn : Nat) : (site.fire turn).InLine := by
  unfold Site.fire
  cases found : site.own.saveAt? turn with
  | none =>
    refine ⟨inLine.own, fun connectionId save isOwn process isProcess other member same => ?_⟩
    rcases turn_of_mem_fireAmong isProcess member with isLater | ⟨old, isOld, first, isFirst, kept⟩
    · have behind : save.turn < site.nextTurn := lt_nextTurn_of_own isOwn
      exact Nat.ne_of_lt behind (same.trans isLater)
    · exact inLine.others connectionId save isOwn old isOld first isFirst (same.trans kept)
  | some entry =>
    obtain ⟨firedId, fired⟩ := entry
    obtain ⟨rest, settled, leaves⟩ := site.own.fire_settles firedId fired site.nextTurn site.volume
    have isFired := (Process.found_of_saveAt? found).1
    simp only [settled]
    -- What is left in the place of the fired save, against a save that was there before.
    have apart : ∀ left, rest = some left → ∀ turn, fired.turn ≠ turn → turn < site.nextTurn →
        left.turn ≠ turn := by
      intro left isLeft turn different below
      rcases (leaves left isLeft).turn with kept | moved
      · rwa [kept]
      · omega
    refine ⟨fun first second firstSave secondSave isFirst isSecond sameTurn => ?_,
      fun connectionId save isOwn process isProcess other member => ?_⟩
    · by_cases firstFired : firedId = first
      · subst firstFired
        rw [Process.find?_saves_settle_self] at isFirst
        by_cases same : firedId = second
        · exact same
        · rw [Process.find?_saves_settle_other same] at isSecond
          exact absurd sameTurn (apart firstSave isFirst secondSave.turn
            (fun equal => same (inLine.own _ _ _ _ isFired isSecond equal))
            (lt_nextTurn_of_own isSecond))
      · rw [Process.find?_saves_settle_other firstFired] at isFirst
        by_cases secondFired : firedId = second
        · subst secondFired
          rw [Process.find?_saves_settle_self] at isSecond
          exact absurd sameTurn.symm (apart secondSave isSecond firstSave.turn
            (fun equal => firstFired (inLine.own _ _ _ _ isFired isFirst equal))
            (lt_nextTurn_of_own isFirst))
        · rw [Process.find?_saves_settle_other secondFired] at isSecond
          exact inLine.own _ _ _ _ isFirst isSecond sameTurn
    · by_cases isSame : firedId = connectionId
      · subst isSame
        rw [Process.find?_saves_settle_self] at isOwn
        exact apart save isOwn other.turn
          (inLine.others firedId fired isFired process isProcess other member)
          (lt_nextTurn_of_other isProcess member)
      · rw [Process.find?_saves_settle_other isSame] at isOwn
        exact inLine.others connectionId save isOwn process isProcess other member

end InLine

end Site

end RatchetMessaging
