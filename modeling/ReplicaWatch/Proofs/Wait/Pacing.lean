import ReplicaWatch.Convergence.Rehearsal
import ReplicaWatch.Proofs.Clock.Pauses
import ReplicaWatch.Proofs.Wait.Conduct
import ReplicaWatch.Proofs.Wait.Schedule

/-! # The pace of a wait

How long a wait pauses behind a poll does not depend on how long its calls have taken, but for the
deadline: behind the `k`-th pending poll it is the `k`-th interval of the schedule, or what is left
of the wait when that poll ends (`Wait.run_paced`).

The polls that leave a wait undecided are told apart from what the wait does behind them
(`Wait.pending?`, `Wait.PendingPolls`). The induction is along them, and its invariant is that the
interval that is due is the one of the schedule; the doubling keeps to the schedule by
`ConvergenceConfig.nanos_nextInterval`.
-/

namespace ReplicaWatch.Wait

variable {σ : Type} {wait : Wait} {client : Client σ} {token : Token} {started : Nat}

/-- A poll that left a wait undecided. -/
structure PendingPoll (σ : Type) where
  /-- The interval that was due behind it, before it was cut at the deadline. -/
  interval : Duration
  /-- The world in which it ended. -/
  world : World σ

/-- The poll that is due, if it is made and leaves the wait undecided. -/
def pending? (wait : Wait) (client : Client σ) (token : Token) (started : Nat)
    (standing : Standing σ) : Option (PendingPoll σ) :=
  if (wait.remaining started standing.world.now).isZero then
    none
  else
    match wait.poll client token started standing.session standing.world with
    | (.finished (.ok observation, _), polled) =>
      if observation.outcome = .pending then some ⟨standing.interval, polled⟩ else none
    | _ => none

/-- The polls that leave a wait undecided, from part of it on to its end. -/
inductive PendingPolls (wait : Wait) (client : Client σ) (token : Token) (started : Nat) :
    Turn σ → List (PendingPoll σ) → Except ConvergenceError Convergence × World σ → Prop where
  | ended (out : Except ConvergenceError Convergence × World σ) :
      PendingPolls wait client token started (.ended out) [] out
  | decided {standing : Standing σ} {polls : List (PendingPoll σ)}
      {out : Except ConvergenceError Convergence × World σ}
      (decided : wait.pending? client token started standing = none)
      (rest : PendingPolls wait client token started (wait.turn client token started standing)
        polls out) :
      PendingPolls wait client token started (.again standing) polls out
  | pending {standing : Standing σ} {poll : PendingPoll σ} {polls : List (PendingPoll σ)}
      {out : Except ConvergenceError Convergence × World σ}
      (pending : wait.pending? client token started standing = some poll)
      (rest : PendingPolls wait client token started (wait.turn client token started standing)
        polls out) :
      PendingPolls wait client token started (.again standing) (poll :: polls) out

namespace PendingPolls

variable {turn : Turn σ} {polls others : List (PendingPoll σ)}
  {out other : Except ConvergenceError Convergence × World σ}

/-- There is one list of them. -/
theorem unique (first : PendingPolls wait client token started turn polls out)
    (second : PendingPolls wait client token started turn others other) : polls = others := by
  induction first generalizing others with
  | ended out => cases second; rfl
  | decided decided _ ih =>
    cases second with
    | decided _ rest => exact ih rest
    | pending pending => rw [decided] at pending; cases pending
  | pending pending _ ih =>
    cases second with
    | decided decided => rw [decided] at pending; cases pending
    | pending pending' rest =>
      rw [pending] at pending'
      cases pending'
      rw [ih rest]

/-- Every run of turns has such a list. -/
theorem of_unfolds {turns : Nat} (unfolds : Unfolds wait client token started turn turns out) :
    ∃ polls, PendingPolls wait client token started turn polls out := by
  induction unfolds with
  | ended out => exact ⟨[], .ended out⟩
  | @again standing turns out rest ih =>
    obtain ⟨polls, rest⟩ := ih
    cases due : wait.pending? client token started standing with
    | none => exact ⟨polls, .decided due rest⟩
    | some poll => exact ⟨poll :: polls, .pending due rest⟩

end PendingPolls

/-- A poll makes no pause. -/
theorem pauses_of_poll {session : Session} {w after : World σ}
    {raced : Raced (Except ConvergenceError Observation × Session)}
    (poll : wait.poll client token started session w = (raced, after)) :
    after.pauses = w.pauses := by
  have same := Dialogue.pauses_race client (w.now + (wait.remaining started w.now).ticks) token
    (session.poll wait.mode wait.service wait.config.timeout) w
  rwa [show Dialogue.race client _ token _ w = (raced, after) from poll] at same

/-- A poll that is finished has not been cancelled, since it makes a call. -/
theorem unfired_of_poll {session : Session} {w after : World σ}
    {result : Except ConvergenceError Observation × Session}
    (poll : wait.poll client token started session w = (.finished result, after)) :
    token.hasFired after.now = false := by
  obtain ⟨next, asks, -⟩ :=
    session.poll_inspects_once wait.mode wait.service wait.config.timeout
  unfold Wait.poll at poll
  rw [asks] at poll
  unfold Dialogue.race at poll
  split at poll
  · next inspected middle looked =>
    exact Dialogue.unfired_of_race poll (World.unfired_of_race looked)
  · cases poll
  · cases poll

/-- A pause of a wait that is not cancelled begins, and is cut at the deadline. -/
theorem pauses_of_pause {length : Duration} {w after : World σ} {awake : Bool}
    (unfired : token.hasFired w.now = false)
    (pause : wait.pause token started length w = (awake, after)) :
    after.pauses = w.pauses ++ [(w.now, min length (wait.remaining started w.now))] := by
  have begun := World.pauses_pause unfired (min length (wait.remaining started w.now))
  rwa [← pause_eq, pause] at begun

/-- When the pause behind a pending poll begins, and how long it is: the interval that is due, cut
at the deadline. -/
def respite (wait : Wait) (started : Nat) (poll : PendingPoll σ) : Nat × Duration :=
  (poll.world.now, min poll.interval (wait.remaining started poll.world.now))

/-- **The pauses of a turn.** A turn pauses once behind a pending poll, even if the pause is
interrupted, and without one not at all. -/
theorem turn_pauses (standing : Standing σ) :
    (wait.turn client token started standing).world.pauses = standing.world.pauses ++
      (wait.pending? client token started standing).toList.map (wait.respite started) := by
  have silent {raced : Raced (Except ConvergenceError Observation × Session)} {after : World σ}
      (poll : wait.poll client token started standing.session standing.world = (raced, after)) :
      after.pauses = standing.world.pauses ++ [] := by
    rw [pauses_of_poll poll, List.append_nil]
  have ends := turn_ends wait client token started standing
  generalize wait.turn client token started standing = turn at ends ⊢
  unfold pending?
  -- Only a pause that is slept out leads to another turn, but an interrupted one has begun too.
  cases ends with
  | late late =>
    rw [if_pos late]
    exact (List.append_nil _).symm
  | cancelled left poll =>
    rw [if_neg left, poll]
    exact silent poll
  | expired left poll =>
    rw [if_neg left, poll]
    exact silent poll
  | refused left poll =>
    rw [if_neg left, poll]
    exact silent poll
  | converged left poll outcome =>
    rw [if_neg left, poll]
    dsimp only
    rw [outcome, if_neg nofun]
    exact silent poll
  | rolledOut left poll outcome =>
    rw [if_neg left, poll]
    dsimp only
    rw [outcome, if_neg nofun]
    exact silent poll
  | interrupted left poll outcome pause =>
    rw [if_neg left, poll]
    dsimp only
    rw [if_pos outcome, ← pauses_of_poll poll]
    exact pauses_of_pause (unfired_of_poll poll) pause
  | pending left poll outcome pause =>
    rw [if_neg left, poll]
    dsimp only
    rw [if_pos outcome, ← pauses_of_poll poll]
    exact pauses_of_pause (unfired_of_poll poll) pause

/-- A pending poll was finished, and behind it the interval was due that the wait stood at. -/
theorem poll_of_pending {standing : Standing σ} {poll : PendingPoll σ}
    (pending : wait.pending? client token started standing = some poll) :
    (∃ result, wait.poll client token started standing.session standing.world =
      (.finished result, poll.world)) ∧ poll.interval = standing.interval := by
  unfold pending? at pending
  split at pending
  · cases pending
  · split at pending
    · next polled =>
      split at pending
      · cases pending
        exact ⟨⟨_, polled⟩, rfl⟩
      · cases pending
    · cases pending

/-- A wait goes on only behind a pending poll, with the interval that follows. -/
theorem pending_of_again {standing next : Standing σ}
    (again : wait.turn client token started standing = .again next) :
    (wait.pending? client token started standing).isSome = true ∧
      next.interval = wait.config.nextInterval standing.interval := by
  have ends := turn_ends wait client token started standing
  rw [again] at ends
  cases ends with
  | pending left poll outcome =>
    unfold pending?
    rw [if_neg left, poll]
    exact ⟨by simp [outcome], rfl⟩

/-- The interval that is due, if the wait goes on, is the `k`-th one of the schedule. -/
def Turn.Paced (wait : Wait) (k : Nat) : Turn σ → Prop
  | .ended _ => True
  | .again standing => standing.interval.nanos = wait.config.intervalNanos k

/-- **A turn keeps the pace.** -/
theorem Paced.turn (valid : wait.config.Valid) {standing : Standing σ} {k : Nat}
    (paced : (Turn.again standing).Paced wait k) :
    (wait.turn client token started standing).Paced wait (k + 1) := by
  cases goes : wait.turn client token started standing with
  | ended out => trivial
  | again next =>
    have doubled := ConvergenceConfig.nanos_nextInterval valid paced
    rwa [← (pending_of_again goes).2] at doubled

namespace PendingPolls

variable {turn : Turn σ} {polls : List (PendingPoll σ)}
  {out : Except ConvergenceError Convergence × World σ}

/-- From part of it on, a wait pauses behind its pending polls, and at no other time. -/
theorem pauses_eq (pending : PendingPolls wait client token started turn polls out) :
    out.2.pauses = turn.world.pauses ++ polls.map (wait.respite started) := by
  induction pending with
  | ended out => exact (List.append_nil _).symm
  | decided decided _ ih =>
    rw [ih, turn_pauses, decided, List.append_assoc]
    rfl
  | pending pending _ ih =>
    rw [ih, turn_pauses, pending, List.append_assoc]
    rfl

/-- The pending polls that are still to come do not end before now. -/
theorem later (pending : PendingPolls wait client token started turn polls out)
    {poll : PendingPoll σ} (member : poll ∈ polls) : turn.world.now ≤ poll.world.now := by
  have steps := World.grows_law client token (Call.LooksAt wait.service)
  induction pending with
  | ended out => cases member
  | @decided standing polls out _ _ ih =>
    exact Nat.le_trans (turn_upholds steps standing).later (ih member)
  | @pending standing first polls out pending _ ih =>
    rcases List.mem_cons.mp member with rfl | behind
    · obtain ⟨⟨result, polled⟩, -⟩ := poll_of_pending pending
      exact (poll_upholds steps polled).later
    · exact Nat.le_trans (turn_upholds steps standing).later (ih behind)

/-- **The intervals keep to the schedule.** -/
theorem interval_eq (valid : wait.config.Valid)
    (pending : PendingPolls wait client token started turn polls out) {k : Nat}
    (paced : turn.Paced wait k) {i : Nat} {poll : PendingPoll σ} (nth : polls[i]? = some poll) :
    poll.interval.nanos = wait.config.intervalNanos (k + i) := by
  induction pending generalizing k i with
  | ended out => cases nth
  | @decided standing polls out decided rest ih =>
    -- A turn without a pending poll is the last one.
    cases goes : wait.turn client token started standing with
    | ended last =>
      rw [goes] at rest
      cases rest
      cases nth
    | again next =>
      have due := (pending_of_again goes).1
      rw [decided] at due
      cases due
  | pending pending _ ih =>
    cases i with
    | zero =>
      cases nth
      rw [(poll_of_pending pending).2]
      exact paced
    | succ i =>
      rw [ih (Paced.turn valid paced) nth, Nat.add_assoc, Nat.add_comm 1]

end PendingPolls

/-- Before the first poll a wait pauses at most once, for its delay or for as long as is left; and
if it comes to a poll, it has paused. -/
theorem opening_pauses (wait : Wait) (client : Client σ) (token : Token) (w : World σ) :
    ∃ begun : Option (Nat × Duration),
      (wait.opening client token w).world.pauses = w.pauses ++ begun.toList ∧
      (∀ first ∈ begun, first.2 = min wait.config.delay (wait.remaining w.now first.1)) ∧
      ∀ standing, wait.opening client token w = .again standing →
        begun.isSome = true ∧ standing.interval = wait.config.minInterval := by
  have silent {raced : Raced (Call.inspectService wait.service).Answer} {after : World σ}
      (look : w.race client (wait.deadline w.now) token (.inspectService wait.service) =
        (raced, after)) : after.pauses = w.pauses ++ [] := by
    have same := World.pauses_race client (wait.deadline w.now) token
      (.inspectService wait.service) w
    rwa [look, ← List.append_nil w.pauses] at same
  have ends := opening_ends wait client token w
  generalize wait.opening client token w = turn at ends ⊢
  cases ends with
  | cancelled look => exact ⟨none, silent look, nofun, nofun⟩
  | expired look => exact ⟨none, silent look, nofun, nofun⟩
  | refused look => exact ⟨none, silent look, nofun, nofun⟩
  | uncounted look => exact ⟨none, silent look, nofun, nofun⟩
  | interrupted look _ pause =>
    have begun := pauses_of_pause (World.unfired_of_race look) pause
    rw [silent look, List.append_nil] at begun
    refine ⟨some _, begun, ?_, nofun⟩
    rintro _ ⟨⟩
    rfl
  | opened look _ pause =>
    have begun := pauses_of_pause (World.unfired_of_race look) pause
    rw [silent look, List.append_nil] at begun
    refine ⟨some _, begun, ?_, ?_⟩
    · rintro _ ⟨⟩
      rfl
    · rintro _ ⟨⟩
      exact ⟨rfl, rfl⟩

/-- Behind polls whose intervals keep to the schedule, the pauses are those of the schedule, cut at
the deadline. -/
theorem respites_eq {polls : List (PendingPoll σ)}
    (scheduled : ∀ k poll, polls[k]? = some poll →
      poll.interval.nanos = wait.config.intervalNanos k) :
    (polls.map (wait.respite started)).map (Prod.map id Duration.nanos) =
      polls.mapIdx (fun k poll => (poll.world.now,
        min (wait.config.intervalNanos k)
          (wait.config.timeout.nanos - (poll.world.now - started) * 1000000))) := by
  apply List.ext_getElem?
  intro k
  rw [List.getElem?_mapIdx, List.getElem?_map, List.getElem?_map]
  cases nth : polls[k]? with
  | none => rfl
  | some poll =>
    simp only [Option.map_some, Prod.map, id_eq, respite, Duration.nanos_min,
      scheduled k poll nth, remaining, Duration.nanos_minusNanos]

/-- The first interval is the one that the schedule begins with. -/
theorem opening_paced (valid : wait.config.Valid) (client : Client σ) (token : Token)
    (w : World σ) : (wait.opening client token w).Paced wait 0 := by
  cases opened : wait.opening client token w with
  | ended out => trivial
  | again standing =>
    obtain ⟨_, _, _, first⟩ := opening_pauses wait client token w
    have shortest := ConvergenceConfig.intervalNanos_zero valid
    rw [← (first standing opened).2] at shortest
    exact shortest.symm

/-- **The pauses of a wait.** They are the one for its delay, without which it makes no poll, and
those behind its pending polls. -/
theorem run_pauses (valid : wait.config.Valid) (client : Client σ) (token : Token)
    (w : World σ) :
    ∃ (begun : Option (Nat × Duration)) (polls : List (PendingPoll σ)),
      PendingPolls wait client token w.now (wait.opening client token w) polls
        (wait.run client token w) ∧
      (∀ first ∈ begun, first.2 = min wait.config.delay (wait.remaining w.now first.1)) ∧
      (begun = none → polls = []) ∧
      w.pausesUntil (wait.run client token w).2 =
        begun.toList ++ polls.map (wait.respite w.now) := by
  obtain ⟨turns, unfolds⟩ := run_unfolds valid client token w
  obtain ⟨polls, pending⟩ := PendingPolls.of_unfolds unfolds
  obtain ⟨begun, paused, delayed, opened⟩ := opening_pauses wait client token w
  refine ⟨begun, polls, pending, delayed, ?_, ?_⟩
  · rintro rfl
    cases goes : wait.opening client token w with
    | ended out =>
      rw [goes] at pending
      cases pending
      rfl
    | again standing => cases (opened standing goes).1
  · apply World.pausesUntil_eq
    rw [pending.pauses_eq, paused, List.append_assoc]

/-- **Back-off under any latencies.** However long the calls of a wait take, and whether or not it
is cancelled, a wait that can be driven pauses for its delay, and then once behind each pending
poll. The pause behind the `k`-th of them, counted from 0, is the smaller of the first interval
doubled `k` times within the longest one, in exact arithmetic, and what is left of the timeout when
that poll ends. So the intervals, before they are cut at the deadline, never decrease and never
leave their bounds, and the doubling does not show that it saturates. -/
theorem run_paced (valid : wait.config.Valid) (client : Client σ) (token : Token) (w : World σ) :
    ∃ polls,
      PendingPolls wait client token w.now (wait.opening client token w) polls
        (wait.run client token w) ∧
      (∀ first ∈ (w.pausesUntil (wait.run client token w).2).head?,
        first.2.nanos = min wait.config.delay.nanos
          (wait.config.timeout.nanos - (first.1 - w.now) * 1000000)) ∧
      (w.pausesUntil (wait.run client token w).2).tail.map (Prod.map id Duration.nanos) =
        polls.mapIdx (fun k poll => (poll.world.now,
          min (wait.config.intervalNanos k)
            (wait.config.timeout.nanos - (poll.world.now - w.now) * 1000000))) ∧
      (∀ poll ∈ polls, w.now ≤ poll.world.now) ∧
      (∀ k poll, polls[k]? = some poll → poll.interval.nanos = wait.config.intervalNanos k) ∧
      polls.Pairwise (fun poll later => poll.interval ≤ later.interval) ∧
      ∀ poll ∈ polls,
        wait.config.minInterval ≤ poll.interval ∧ poll.interval ≤ wait.config.maxInterval := by
  obtain ⟨begun, polls, pending, delayed, unopened, paused⟩ := run_pauses valid client token w
  have scheduled (k : Nat) (poll : PendingPoll σ) (nth : polls[k]? = some poll) :
      poll.interval.nanos = wait.config.intervalNanos k := by
    have due := pending.interval_eq valid (opening_paced valid client token w) nth
    rwa [Nat.zero_add] at due
  refine ⟨polls, pending, ?_, ?_, ?_, scheduled, ?_, ?_⟩
  · intro first heads
    cases begun with
    | none =>
      rw [paused, unopened rfl] at heads
      cases heads
    | some delay =>
      rw [paused] at heads
      cases heads
      rw [delayed first rfl, Duration.nanos_min]
      rfl
  · have behind : (w.pausesUntil (wait.run client token w).2).tail =
        polls.map (wait.respite w.now) := by
      rw [paused]
      cases begun with
      | none => rw [unopened rfl]; rfl
      | some delay => rfl
    rw [behind]
    exact respites_eq scheduled
  · intro poll member
    have steps := World.grows_law client token (Call.LooksAt wait.service)
    exact Nat.le_trans (opening_upholds steps w).later (pending.later member)
  · apply List.pairwise_iff_getElem.mpr
    intro i j former latter before
    change (polls[i]).interval.nanos ≤ (polls[j]).interval.nanos
    rw [scheduled i _ (List.getElem?_eq_getElem former),
      scheduled j _ (List.getElem?_eq_getElem latter)]
    exact wait.config.intervalNanos_mono (Nat.le_of_lt before)
  · intro poll member
    obtain ⟨k, nth⟩ := List.mem_iff_getElem?.mp member
    change wait.config.minInterval.nanos ≤ poll.interval.nanos ∧
      poll.interval.nanos ≤ wait.config.maxInterval.nanos
    rw [scheduled k poll nth]
    exact ⟨ConvergenceConfig.minInterval_le_intervalNanos valid k, Nat.min_le_right _ _⟩

/-- A service of one replica that never gets a task, to be waited for five seconds. -/
private def unserved : Wait :=
  ⟨"svc", ⟨.ofSeconds 5, .ofSeconds 1, .ofSeconds 1, .ofSeconds 4⟩, .creating⟩

/-- The inspection before the delay takes half a second, and the first listing of the tasks seven
tenths of a second. -/
private def lagging : World Rehearsal :=
  ⟨0, ⟨.ofFrames [⟨some ⟨"svc", "svc", .replicated (some 1), none, none⟩, [], []⟩],
    fun
      | .inspectService => [500]
      | .listTasks => [700]
      | _ => []⟩, []⟩

/-- There is time for two polls, which end after 2.2 and after 3.2 seconds. -/
private theorem pending_lagging :
    ∃ (first second : World Rehearsal) (out : Except ConvergenceError Convergence × World Rehearsal),
      PendingPolls unserved Rehearsal.client .never 0
        (unserved.opening Rehearsal.client .never lagging)
        [⟨.ofSeconds 1, first⟩, ⟨.ofSeconds 2, second⟩] out ∧
      first.now = 2200 ∧ second.now = 3200 := by
  obtain ⟨one, opened, first, polled, early, two, turned, second, repolled, later, three, again,
      decided, out, ended⟩ :
    ∃ one, unserved.opening Rehearsal.client .never lagging = .again one ∧
      ∃ first, unserved.pending? Rehearsal.client .never 0 one = some ⟨.ofSeconds 1, first⟩ ∧
        first.now = 2200 ∧
      ∃ two, unserved.turn Rehearsal.client .never 0 one = .again two ∧
      ∃ second, unserved.pending? Rehearsal.client .never 0 two = some ⟨.ofSeconds 2, second⟩ ∧
        second.now = 3200 ∧
      ∃ three, unserved.turn Rehearsal.client .never 0 two = .again three ∧
        unserved.pending? Rehearsal.client .never 0 three = none ∧
      ∃ out, unserved.turn Rehearsal.client .never 0 three = .ended out :=
    ⟨_, rfl, _, rfl, rfl, _, rfl, _, rfl, rfl, _, rfl, rfl, _, rfl⟩
  refine ⟨first, second, out, ?_, early, later⟩
  have rest : PendingPolls unserved Rehearsal.client .never 0 (.again three) [] out :=
    .decided decided (ended ▸ .ended out)
  rw [opened]
  exact .pending polled (turned ▸ .pending repolled (again ▸ rest))

/-- Slow answers delay the pauses, and the second is cut down to the time that is left. -/
theorem run_paced_lagging :
    unserved.config.Valid ∧
      (lagging.pausesUntil (unserved.run Rehearsal.client .never lagging).2).tail.map
          (Prod.map id Duration.nanos) =
        [(2200, 1000000000), (3200, 1800000000)] := by
  have valid : unserved.config.Valid := by decide
  obtain ⟨polls, pending, -, behind, -⟩ := run_paced valid Rehearsal.client .never lagging
  obtain ⟨first, second, out, both, early, later⟩ := pending_lagging
  rw [behind, pending.unique both]
  simp only [List.mapIdx_cons, List.mapIdx_nil, early, later]
  exact ⟨valid, rfl⟩

end ReplicaWatch.Wait
