import RatchetMessaging.Proofs.Provider.Queries

/-!
Contract: which primitives a computation calls, in which order and how often.

Owns:
- `Crypto.Shows`, for a computation of whose queries a view shows a plan, in the order of the plan:
  all of it if the computation succeeds, and the first part if it fails on the way;
- the kind of a query: its primitive, and of a keyed digest the message as well; and
  `Crypto.Follows`, for a computation whose queries have the kinds of a plan;
- the plan of a chain that advances, and how often a kind stands in it.

Does not own: the views that look at more than the kind.
-/

namespace RatchetMessaging

namespace Query

/-- A primitive, and what a keyed digest is taken of. -/
inductive Kind where
  | randomBytes
  | x25519Public
  | x25519Shared
  | ed25519KeyPair
  | ed25519Sign
  | ed25519Verify
  | hkdf
  | hmac (message : Bytes)
  | aeadEncrypt
  | aeadDecrypt
deriving DecidableEq

/-- The kind of a query. -/
def kind : Query → Kind
  | randomBytes _ => .randomBytes
  | x25519Public _ => .x25519Public
  | x25519Shared _ _ => .x25519Shared
  | ed25519KeyPair _ => .ed25519KeyPair
  | ed25519Sign _ _ => .ed25519Sign
  | ed25519Verify _ _ _ => .ed25519Verify
  | hkdf _ _ _ _ => .hkdf
  | hmac _ message => .hmac message
  | aeadEncrypt _ _ _ _ => .aeadEncrypt
  | aeadDecrypt _ _ _ _ => .aeadDecrypt

/-- Whether a kind is a keyed digest, of any message. -/
def Kind.isHmac : Kind → Bool
  | hmac _ => true
  | _ => false

end Query

variable {σ α β : Type}

namespace Crypto

/-! ### What a view shows -/

section Views

variable {ι : Type} {view : Query → Option ι} {plan first second : List ι}

/-- The logging computation ends as the plain one does. What the view shows of the queries that it
adds to the list is the plan, from the first entry on, and all of it if the computation succeeds. -/
def Shows (view : Query → Option ι) (logging : Crypto (σ × List Query) α) (plain : Crypto σ α)
    (plan : List ι) : Prop :=
  ∀ before, ∃ queries,
    (∀ earlier, logging (before, earlier) = withQueries (earlier ++ queries) (plain before)) ∧
      queries.filterMap view <+: plan ∧
      ∀ value after, plain before = .ok value after → queries.filterMap view = plan

theorem shows_pure (value : α) :
    Shows view (pure value : Crypto (σ × List Query) α) (pure value : Crypto σ α) [] := by
  intro before
  refine ⟨[], fun earlier => ?_, List.nil_prefix, fun _ _ _ => rfl⟩
  rw [List.append_nil]
  rfl

/-- A failure shows the beginning of every plan. -/
theorem shows_throw (failure : Error) (plan : List ι) :
    Shows view (throw failure : Crypto (σ × List Query) α) (throw failure : Crypto σ α) plan := by
  intro before
  refine ⟨[], fun earlier => ?_, List.nil_prefix, fun _ _ returned => ?_⟩
  · rw [List.append_nil]
    rfl
  · exact absurd returned throw_ne_ok

theorem shows_logged (query : Query) (call : Crypto σ α) :
    Shows view (logged query call) call (view query).toList := by
  have shown : [query].filterMap view = (view query).toList := by
    cases sight : view query <;> simp [sight]
  exact fun _ => ⟨[query], fun _ => rfl, shown ▸ List.prefix_rfl, fun _ _ _ => shown⟩

/-- The plan of a sequence is that of its first step, and then that of the rest, whatever the value
in between. -/
theorem Shows.bind {logging : Crypto (σ × List Query) α} {plain : Crypto σ α}
    {loggingNext : α → Crypto (σ × List Query) β} {plainNext : α → Crypto σ β}
    (firstShows : Shows view logging plain first)
    (nextShows : ∀ value, (∃ before after, plain before = .ok value after) →
      Shows view (loggingNext value) (plainNext value) second) :
    Shows view (logging >>= loggingNext) (plain >>= plainNext) (first ++ second) := by
  intro before
  obtain ⟨queries, logs, begins, ends⟩ := firstShows before
  cases outcome : plain before with
  | ok value between =>
    have whole := ends value between outcome
    obtain ⟨more, logsNext, beginsNext, endsNext⟩ :=
      nextShows value ⟨before, between, outcome⟩ between
    refine ⟨queries ++ more, fun earlier => ?_, ?_, fun last after succeeded => ?_⟩
    · have loggedFirst := logs earlier
      rw [outcome] at loggedFirst
      rw [bind_of_ok loggedFirst, bind_of_ok outcome, logsNext, List.append_assoc]
    · rw [List.filterMap_append, whole]
      exact (List.prefix_append_right_inj first).2 beginsNext
    · rw [bind_of_ok outcome] at succeeded
      rw [List.filterMap_append, whole, endsNext last after succeeded]
  | error failure between =>
    refine ⟨queries, fun earlier => ?_, begins.trans (List.prefix_append first second),
      fun last after succeeded => ?_⟩
    · have loggedFirst := logs earlier
      rw [outcome] at loggedFirst
      rw [bind_of_error loggedFirst, bind_of_error outcome]
      rfl
    · rw [bind_of_error outcome] at succeeded
      cases succeeded

/-- What is done with the value of a computation takes no call. -/
theorem Shows.bind_pure {logging : Crypto (σ × List Query) α} {plain : Crypto σ α}
    (showsPlan : Shows view logging plain plan) (use : α → β) :
    Shows view (logging >>= fun value => pure (use value))
      (plain >>= fun value => pure (use value)) plan := by
  have showsWhole := showsPlan.bind fun value _ => shows_pure (use value)
  rwa [List.append_nil] at showsWhole

end Views

/-! ### Plans of kinds -/

open Query (Kind)

variable {plan first second : List Kind}

/-- The logging computation ends as the plain one does. What it adds to the list is of the kinds of
the plan, from the first on, and of all of them if the computation succeeds. -/
def Follows (logging : Crypto (σ × List Query) α) (plain : Crypto σ α) (plan : List Kind) : Prop :=
  ∀ before, ∃ queries,
    (∀ earlier, logging (before, earlier) = withQueries (earlier ++ queries) (plain before)) ∧
      queries.map Query.kind <+: plan ∧
      ∀ value after, plain before = .ok value after → queries.map Query.kind = plan

theorem follows_iff_shows {logging : Crypto (σ × List Query) α} {plain : Crypto σ α} :
    Follows logging plain plan ↔ Shows (some ∘ Query.kind) logging plain plan := by
  unfold Follows Shows
  rw [List.filterMap_eq_map]

theorem follows_pure (value : α) :
    Follows (pure value : Crypto (σ × List Query) α) (pure value : Crypto σ α) [] :=
  follows_iff_shows.2 (shows_pure value)

/-- A failure follows every plan. -/
theorem follows_throw (failure : Error) (plan : List Kind) :
    Follows (throw failure : Crypto (σ × List Query) α) (throw failure : Crypto σ α) plan :=
  follows_iff_shows.2 (shows_throw failure plan)

theorem follows_logged (query : Query) (call : Crypto σ α) :
    Follows (logged query call) call [query.kind] :=
  follows_iff_shows.2 (shows_logged query call)

/-- The plan of a sequence is that of its first step, and then that of the rest, whatever the value
in between. -/
theorem Follows.bind {logging : Crypto (σ × List Query) α} {plain : Crypto σ α}
    {loggingNext : α → Crypto (σ × List Query) β} {plainNext : α → Crypto σ β}
    (firstFollows : Follows logging plain first)
    (nextFollows : ∀ value, (∃ before after, plain before = .ok value after) →
      Follows (loggingNext value) (plainNext value) second) :
    Follows (logging >>= loggingNext) (plain >>= plainNext) (first ++ second) := by
  refine follows_iff_shows.2 ((follows_iff_shows.1 firstFollows).bind fun value succeeds => ?_)
  exact follows_iff_shows.1 (nextFollows value succeeds)

/-- After a step that always fails nothing has to be followed. -/
theorem Follows.bind_of_fails {logging : Crypto (σ × List Query) α} {plain : Crypto σ α}
    (follows : Follows logging plain plan)
    (fails : ∀ before value after, plain before ≠ .ok value after)
    (loggingNext : α → Crypto (σ × List Query) β) (plainNext : α → Crypto σ β) :
    Follows (logging >>= loggingNext) (plain >>= plainNext) plan := by
  have followsWhole : Follows (logging >>= loggingNext) (plain >>= plainNext) (plan ++ []) := by
    refine follows.bind fun value succeeds => ?_
    obtain ⟨before, after, succeeded⟩ := succeeds
    exact absurd succeeded (fails before value after)
  rwa [List.append_nil] at followsWhole

/-- What is done with the value of a computation takes no call. -/
theorem Follows.bind_pure {logging : Crypto (σ × List Query) α} {plain : Crypto σ α}
    (follows : Follows logging plain plan) (use : α → β) :
    Follows (logging >>= fun value => pure (use value)) (plain >>= fun value => pure (use value))
      plan :=
  follows_iff_shows.2 ((follows_iff_shows.1 follows).bind_pure use)

end Crypto

/-! ### Chains -/

namespace Chain

open Crypto
open Query (Kind)

variable (provider : Provider σ)

/-- The plan of one step of a chain: its message key, and then its next key. -/
def advanceKinds : List Kind := [.hmac messageLabel, .hmac chainLabel]

/-- The plan of a number of steps. -/
def advancesKinds (count : Nat) : List Kind := (List.replicate count advanceKinds).flatten

theorem advancesKinds_succ (count : Nat) :
    advancesKinds (count + 1) = advanceKinds ++ advancesKinds count := by
  unfold advancesKinds
  rw [List.replicate_succ, List.flatten_cons]

theorem advancesKinds_succ' (count : Nat) :
    advancesKinds (count + 1) = advancesKinds count ++ advanceKinds := by
  unfold advancesKinds
  rw [List.replicate_succ', List.flatten_append, List.flatten_singleton]

theorem countP_advancesKinds (holds : Kind → Bool) (count : Nat) :
    (advancesKinds count).countP holds = count * advanceKinds.countP holds := by
  induction count with
  | zero => simp [advancesKinds]
  | succ count inductionHypothesis =>
    rw [advancesKinds_succ, List.countP_append, inductionHypothesis]
    rw [Nat.succ_mul, Nat.add_comm]

/-- An advance calls the keyed digest twice, for the message key and for the next chain key. -/
theorem follows_advance (chain : Chain) :
    Follows (chain.advance provider.logging) (chain.advance provider) advanceKinds := by
  unfold advance
  split
  · exact follows_throw _ _
  · exact (follows_logged _ _).bind fun messageKey _ => (follows_logged _ _).bind_pure _

theorem follows_advanceBy (count : Nat) (chain : Chain) :
    Follows (chain.advanceBy provider.logging count) (chain.advanceBy provider count)
      (advancesKinds count) := by
  induction count generalizing chain with
  | zero => exact follows_pure _
  | succ count inductionHypothesis =>
    rw [advancesKinds_succ]
    refine (follows_advance provider chain).bind fun first _ => ?_
    exact (inductionHypothesis first.2).bind_pure _

end Chain

end RatchetMessaging
