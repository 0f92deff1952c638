import ReplicaWatch.Convergence.Operation
import ReplicaWatch.Proofs.Dialogue.PollLog
import ReplicaWatch.Proofs.Wait.Conduct
import ReplicaWatch.Proofs.Wait.Deadline
import ReplicaWatch.Proofs.Wait.Recording

/-! # The course of a wait

A wait asks its questions in a fixed order: it looks at the service once, and then polls, and only
its last poll may be cut short (`Wait.Course`). It makes a call only after the one before it has
succeeded, as long as no poll has decided the wait, while its token has not fired, and not past
its deadline; and it changes nothing (`Wait.run_reads`).

The invariant of the loop is `Wait.Underway`: the log is that of the first look and of polls all of
which left the wait undecided.
-/

namespace ReplicaWatch

variable {σ : Type}

namespace Wait

variable {wait : Wait} {client : Client σ} {token : Token} {started : Nat}
  {log poll : List Call.Entry} {polls : Nat}

/-- The calls of a wait with some number of polls none of which is cut short. -/
def rounds (id : String) (polls : Nat) : List Call :=
  .inspectService id :: (List.replicate polls (Session.pollCalls id)).flatten

/-- Another poll adds the calls of a poll. -/
theorem rounds_succ (id : String) (polls : Nat) :
    rounds id (polls + 1) = rounds id polls ++ Session.pollCalls id := by
  simp [rounds, List.replicate_succ', List.flatten_append]

/-- One inspection opens the wait, and each poll makes one more. -/
theorem countP_rounds (id : String) (polls : Nat) :
    (rounds id polls).countP (fun call => decide (call.operation = .inspectService)) =
      polls + 1 := by
  induction polls with
  | zero => rfl
  | succ polls ih => rw [rounds_succ, List.countP_append, ih]; rfl

/-- The log of a wait that goes on after some polls. -/
inductive Underway (wait : Wait) : List Call.Entry → Nat → Prop where
  | opened {service : Service} {replicas : Nat} (counted : service.replicas? = some replicas) :
      Underway wait [⟨.inspectService wait.service, some (.ok service)⟩] 0
  | pending {log poll : List Call.Entry} {polls : Nat} (before : Underway wait log polls)
      (pends : Session.Pends wait.mode wait.service poll) :
      Underway wait (log ++ poll) (polls + 1)

/-- **The course of a wait.** Its log, the number of polls that it has started, and its result. -/
inductive Course (wait : Wait) :
    List Call.Entry → Nat → Except ConvergenceError Convergence → Prop where
  /-- No call was made. -/
  | uncalled (error : ConvergenceError) : Course wait [] 0 (.error error)
  /-- It ended with the look at the number of replicas. -/
  | looked (look : Option (Call.inspectService wait.service).Answer) (error : ConvergenceError) :
      Course wait [⟨.inspectService wait.service, look⟩] 0 (.error error)
  /-- It ended before another poll was started. -/
  | between {log : List Call.Entry} {polls : Nat} (before : Underway wait log polls)
      (error : ConvergenceError) : Course wait log polls (.error error)
  /-- It ended with a poll, which may have been cut short. -/
  | failed {log poll : List Call.Entry} {polls : Nat} (before : Underway wait log polls)
      (last : Session.PollLogs wait.mode wait.service poll) (error : ConvergenceError) :
      Course wait (log ++ poll) (polls + 1) (.error error)
  /-- It ended with a poll all of whose calls succeeded, and counts its polls. -/
  | converged {log poll : List Call.Entry} {polls : Nat} (before : Underway wait log polls)
      (last : Session.PollLogs wait.mode wait.service poll)
      (succeeded : ∀ entry ∈ poll, entry.Succeeded) {convergence : Convergence}
      (counted : convergence.polls = min (polls + 1) pollLimit) :
      Course wait (log ++ poll) (polls + 1) (.ok convergence)

/-- A wait that is under way has made whole rounds of calls. -/
theorem Underway.calls (underway : Underway wait log polls) :
    log.map Sigma.fst = rounds wait.service polls := by
  induction underway with
  | opened => rfl
  | pending _ pends ih => rw [List.map_append, ih, pends.calls, rounds_succ]

/-- All of its calls so far have succeeded. -/
theorem Underway.succeeded (underway : Underway wait log polls) :
    ∀ entry ∈ log, entry.Succeeded := by
  induction underway with
  | @opened service =>
    intro entry member
    rw [List.mem_singleton.mp member]
    exact ⟨service, rfl⟩
  | pending _ pends ih =>
    intro entry member
    rcases List.mem_append.mp member with early | late
    · exact ih entry early
    · exact pends.succeeded entry late

namespace Course

variable {result : Except ConvergenceError Convergence}

/-- Calls come in rounds, and only the last one may be cut short. -/
theorem calls (course : Course wait log polls result) :
    log.map Sigma.fst <+: rounds wait.service polls := by
  cases course with
  | uncalled => exact List.nil_prefix
  | looked => exact List.prefix_rfl
  | between before => rw [before.calls]
  | failed before last =>
    rw [List.map_append, before.calls, rounds_succ, List.prefix_append_right_inj]
    exact last.calls
  | converged before last =>
    rw [List.map_append, before.calls, rounds_succ, List.prefix_append_right_inj]
    exact last.calls

/-- A call is made only after the one before it has succeeded. -/
theorem succeeded (course : Course wait log polls result) :
    ∀ entry ∈ log.dropLast, entry.Succeeded := by
  have extended {log poll : List Call.Entry} {polls : Nat} (before : Underway wait log polls)
      (last : Session.PollLogs wait.mode wait.service poll) :
      ∀ entry ∈ (log ++ poll).dropLast, entry.Succeeded := by
    intro entry member
    rw [List.dropLast_append_of_ne_nil last.ne_nil] at member
    rcases List.mem_append.mp member with early | late
    · exact before.succeeded entry early
    · exact last.succeeded entry late
  cases course with
  | uncalled =>
    intro entry member
    cases member
  | looked =>
    intro entry member
    cases member
  | between before =>
    intro entry member
    exact before.succeeded entry (List.mem_of_mem_dropLast member)
  | failed before last => exact extended before last
  | converged before last => exact extended before last

/-- Each poll that was started begins with an inspection, and there is one more. -/
theorem countP_calls (course : Course wait log polls result) :
    (log.map Sigma.fst).countP (fun call => decide (call.operation = .inspectService)) - 1 =
      polls := by
  have extended {log poll : List Call.Entry} {polls : Nat} (before : Underway wait log polls)
      (last : Session.PollLogs wait.mode wait.service poll) :
      ((log ++ poll).map Sigma.fst).countP
        (fun call => decide (call.operation = .inspectService)) - 1 = polls + 1 := by
    rw [List.map_append, List.countP_append, before.calls, countP_rounds, last.countP_calls]
    rfl
  cases course with
  | uncalled => rfl
  | looked => rfl
  | between before => rw [before.calls, countP_rounds, Nat.add_sub_cancel]
  | failed before last => exact extended before last
  | converged before last => exact extended before last

/-- A convergence reports the polls that were started, up to the greatest number that it can
hold. -/
theorem counted {convergence : Convergence} (course : Course wait log polls (.ok convergence)) :
    convergence.polls = min polls pollLimit := by
  cases course with
  | converged _ _ _ counted => exact counted

end Course

/-- The course of part of a wait that began in some world. -/
def Turn.Courses (wait : Wait) (w : World (σ × List Call.Entry)) :
    Turn (σ × List Call.Entry) → Prop
  | .ended (result, after) => ∃ log polls, w.Logs after log ∧ wait.Course log polls result
  | .again standing => ∃ log, w.Logs standing.world log ∧ wait.Underway log standing.polls

/-- A pause leaves the log as it is. -/
theorem logs_of_pause {w before after : World (σ × List Call.Entry)} {length : Duration}
    {awake : Bool} (logs : w.Logs before log)
    (pause : wait.pause token started length before = (awake, after)) : w.Logs after log := by
  apply logs.congr (state_of_pause pause)
  have grows : World.Grows (fun _ _ => False) before after := pause_grows pause
  have silent : before.callsUntil after = [] := by
    apply List.eq_nil_iff_forall_not_mem.mpr
    intro call member
    exact (grows.mem_callsUntil member).2.2
  rw [grows.calls_eq, silent, List.append_nil]

section Poll

variable {w before after : World (σ × List Call.Entry)} {session : Session}
  {raced : Raced (Except ConvergenceError Observation × Session)}

/-- Wherever a poll is given up or ends, it leaves the course of a wait that may end there. -/
theorem course_of_poll (logs : w.Logs before log) (underway : wait.Underway log polls)
    (poll : wait.poll client.logged token started session before = (raced, after))
    (error : ConvergenceError) :
    ∃ log polls, w.Logs after log ∧ wait.Course log polls (.error error) := by
  obtain ⟨entries, later, left⟩ := Dialogue.race_logged poll
  rcases Session.poll_logs left with rfl | polled
  · refine ⟨log, polls, ?_, .between underway error⟩
    have extended := logs.trans later
    rwa [List.append_nil] at extended
  · exact ⟨log ++ entries, polls + 1, logs.trans later, .failed underway polled error⟩

/-- A poll that ends the wait well completes its course. -/
theorem course_of_converged (logs : w.Logs before log) (underway : wait.Underway log polls)
    {observation : Observation} {next : Session}
    (poll : wait.poll client.logged token started session before =
      (.finished (.ok observation, next), after)) (elapsed : Duration) :
    ∃ log polls', w.Logs after log ∧
      wait.Course log polls' (.ok (wait.success (polls + 1) elapsed observation.progress)) := by
  obtain ⟨entries, later, left⟩ := Dialogue.race_logged poll
  obtain ⟨exchanges, answered, rfl⟩ := left.conversation
  have ends := Session.poll_ends answered
  exact ⟨_, polls + 1, logs.trans later, .converged underway (Session.pollLogs_of_ends ends)
    (Session.succeeded_of_ends ends) rfl⟩

/-- After a pending poll the wait is under way with one poll more. -/
theorem underway_of_pending (logs : w.Logs before log) (underway : wait.Underway log polls)
    {observation : Observation} {next : Session}
    (poll : wait.poll client.logged token started session before =
      (.finished (.ok observation, next), after)) (pending : observation.outcome = .pending) :
    ∃ log, w.Logs after log ∧ wait.Underway log (polls + 1) := by
  obtain ⟨entries, later, left⟩ := Dialogue.race_logged poll
  obtain ⟨exchanges, answered, rfl⟩ := left.conversation
  exact ⟨_, logs.trans later,
    .pending underway (Session.pends_of_ends (Session.poll_ends answered) pending)⟩

end Poll

/-- **A turn keeps to the course.** -/
theorem Courses.turn {w : World (σ × List Call.Entry)} (standing : Standing (σ × List Call.Entry))
    (courses : (Turn.again standing).Courses wait w) :
    (wait.turn client.logged token started standing).Courses wait w := by
  obtain ⟨log, logs, underway⟩ := courses
  have ends := turn_ends wait client.logged token started standing
  generalize wait.turn client.logged token started standing = turn at ends ⊢
  -- Only a poll that leaves the wait undecided extends the log of one that goes on.
  cases ends with
  | late => exact ⟨log, standing.polls, logs, .between underway _⟩
  | cancelled _ poll => exact course_of_poll logs underway poll _
  | expired _ poll => exact course_of_poll logs underway poll _
  | refused _ poll => exact course_of_poll logs underway poll _
  | converged _ poll => exact course_of_converged logs underway poll _
  | rolledOut _ poll => exact course_of_poll logs underway poll _
  | interrupted _ poll _ pause =>
    obtain ⟨log, polls, logs, course⟩ := course_of_poll logs underway poll wait.cancelled
    exact ⟨log, polls, logs_of_pause logs pause, course⟩
  | pending _ poll outcome pause =>
    obtain ⟨log, logs, underway⟩ := underway_of_pending logs underway poll outcome
    exact ⟨log, logs_of_pause logs pause, underway⟩

/-- The look at the number of replicas sets the course. -/
theorem opening_courses (wait : Wait) (client : Client σ) (token : Token)
    (w : World (σ × List Call.Entry)) :
    (wait.opening client.logged token w).Courses wait w := by
  have ends := opening_ends wait client.logged token w
  generalize wait.opening client.logged token w = turn at ends ⊢
  cases ends with
  | cancelled look =>
    rcases World.race_logged look with ⟨_, _, rfl⟩ | ⟨_, logs⟩
    · exact ⟨[], 0, .refl _, .uncalled _⟩
    · exact ⟨_, 0, logs, .looked _ _⟩
  | expired look =>
    rcases World.race_logged look with ⟨_, expired, _⟩ | ⟨_, logs⟩
    · cases expired
    · exact ⟨_, 0, logs, .looked _ _⟩
  | refused look =>
    rcases World.race_logged look with ⟨_, finished, _⟩ | ⟨_, logs⟩
    · cases finished
    · exact ⟨_, 0, logs, .looked _ _⟩
  | uncounted look =>
    rcases World.race_logged look with ⟨_, finished, _⟩ | ⟨_, logs⟩
    · cases finished
    · exact ⟨_, 0, logs, .looked _ _⟩
  | interrupted look _ pause =>
    rcases World.race_logged look with ⟨_, finished, _⟩ | ⟨_, logs⟩
    · cases finished
    · exact ⟨_, 0, logs_of_pause logs pause, .looked _ _⟩
  | opened look counted pause =>
    rcases World.race_logged look with ⟨_, finished, _⟩ | ⟨_, logs⟩
    · cases finished
    · exact ⟨_, logs_of_pause logs pause, .opened counted⟩

/-- **Waiting on the log.** A wait with a logged client is the wait with the client, and leaves
the log of its course. -/
theorem run_logged (wait : Wait) (client : Client σ) (token : Token) (w : World σ) :
    ∃ result after log polls, wait.run client token w = (result, after) ∧
      wait.run client.logged token (w.logged []) = (result, after.logged log) ∧
      (w.logged []).Logs (after.logged log) log ∧ wait.Course log polls result := by
  have seen := run_view client.logged_view wait token (w.logged [])
  rw [World.map_logged] at seen
  have ends : (Turn.ended (wait.run client.logged token (w.logged []))).Courses wait
      (w.logged []) := by
    cases checked : wait.config.fault? with
    | some fault =>
      rw [run_of_fault checked]
      exact ⟨[], 0, .refl _, .uncalled _⟩
    | none =>
      have valid := ConvergenceConfig.fault?_eq_none_iff.mp checked
      obtain ⟨turns, unfolds⟩ := run_unfolds valid client.logged token (w.logged [])
      exact unfolds.invariant Courses.turn (opening_courses wait client token _)
  rcases waited : wait.run client.logged token (w.logged []) with ⟨result, after⟩
  rw [waited] at seen ends
  obtain ⟨log, polls, logs, course⟩ := ends
  have kept : (after.map Prod.fst).logged log = after := logs.logged_eq
  refine ⟨result, after.map Prod.fst, log, polls, seen, ?_, ?_, course⟩
  · rw [kept]
  · rwa [kept]

/-- The polls that were started are the inspections in between, without the opening one. -/
theorem pollsStarted_eq {before after : World σ} {allowed : Nat → Call → Prop}
    (grows : World.Grows allowed before after) :
    pollsStarted before after =
      ((before.callsUntil after).map Prod.snd).countP
        (fun call => decide (call.operation = .inspectService)) - 1 := by
  rw [pollsStarted, World.inspections, grows.calls_eq, List.countP_append, World.inspections,
    Nat.add_sub_cancel_left, List.countP_map]
  rfl

/-- Inspections are made before the deadline of a wait. -/
abbrev Early (wait : Wait) (started : Nat) (before after : World σ) : Prop :=
  World.Grows (fun time call => call.operation = .inspectService → time < wait.deadline started)
    before after

/-- A poll that starts before the deadline makes its inspection before the deadline. -/
theorem poll_early {w after : World σ} {session : Session}
    {raced : Raced (Except ConvergenceError Observation × Session)}
    (early : w.now < wait.deadline started)
    (poll : wait.poll client token started session w = (raced, after)) :
    wait.Early started w after := by
  -- Behind its inspection a poll makes no other, so that only its first call has to be early.
  obtain ⟨next, asks, others⟩ :=
    session.poll_inspects_once wait.mode wait.service wait.config.timeout
  have steps : World.StepLaw client token (fun call => call.operation ≠ .inspectService)
      (wait.Early started) :=
    { refl := .refl
      trans := .trans
      race := fun deadline _ _ other =>
        World.grows_race client deadline fun _ inspects => absurd inspects other
      pause := fun length w => World.grows_pause token length w }
  have first : wait.Early started w (w.race client
      (w.now + (wait.remaining started w.now).ticks) token (.inspectService wait.service)).2 :=
    World.grows_race client _ fun _ _ => early
  unfold Wait.poll at poll
  rw [asks] at poll
  unfold Dialogue.race at poll
  split at poll
  · next inspected middle looked =>
    rw [looked] at first
    have rest := Dialogue.race_upholds steps (w.now + (wait.remaining started w.now).ticks)
      (others inspected) middle
    rw [poll] at rest
    exact first.trans rest
  · next middle looked =>
    rw [looked] at first
    cases poll
    exact first
  · next middle looked =>
    rw [looked] at first
    cases poll
    exact first

/-- A turn at or after the deadline makes no call, so that no turn inspects late. -/
theorem turn_early (standing : Standing σ) (begun : started ≤ standing.world.now) :
    wait.Early started standing.world (wait.turn client token started standing).world := by
  by_cases late : (wait.remaining started standing.world.now).isZero = true
  · rw [TurnEnds.turn_eq (.late late)]
    exact .refl _
  · have early := Nat.lt_of_not_le (mt (remaining_isZero_iff begun).mpr late)
    have ends := turn_ends wait client token started standing
    exact (poll_early early rfl).trans (ends.grows late)

/-- The opening inspection is made at the start, which a valid timeout puts before the deadline. -/
theorem opening_early (valid : wait.config.Valid) (client : Client σ) (token : Token)
    (w : World σ) : wait.Early w.now w (wait.opening client token w).world := by
  have early : w.now < wait.deadline w.now :=
    Nat.lt_add_of_pos_right (Duration.ticks_pos_iff.mpr valid.timeout_pos)
  have ends := opening_ends wait client token w
  exact (World.grows_race client _ fun _ _ => early).trans ends.grows

/-- Part of a wait that began in some world has kept its time and made its inspections early. -/
def Turn.Early (wait : Wait) (w : World σ) (turn : Turn σ) : Prop :=
  turn.Timely wait w.now w.inspections ∧ wait.Early w.now w turn.world

/-- A wait looks before its deadline, and is over by then. -/
theorem run_early (valid : wait.config.Valid) (client : Client σ) (token : Token) (w : World σ) :
    wait.Early w.now w (wait.run client token w).2 ∧
      (wait.run client token w).2.now ≤ wait.deadline w.now := by
  -- Whether a turn is early hangs on the time at which it begins, so both are one invariant.
  obtain ⟨turns, unfolds⟩ := run_unfolds valid client token w
  have preserved (standing : Standing σ) (before : (Turn.again standing).Early wait w) :
      (wait.turn client token w.now standing).Early wait w := by
    obtain ⟨timely, early⟩ := before
    exact ⟨Timely.turn valid standing timely, early.trans (turn_early standing timely.begun)⟩
  have opened : (wait.opening client token w).Early wait w :=
    ⟨opening_timely wait client token w, opening_early valid client token w⟩
  obtain ⟨timely, early⟩ := unfolds.invariant preserved opened
  exact ⟨early, timely.2.1⟩

/-- The times at which a wait may make its calls. -/
theorem call_of_run (wait : Wait) (client : Client σ) (token : Token) (w : World σ) :
    ∀ made ∈ w.callsUntil (wait.run client token w).2, token.hasFired made.1 = false ∧
      made.1 ≤ wait.deadline w.now ∧
      (made.2.operation = .inspectService → made.1 < wait.deadline w.now) := by
  intro made member
  have unfired := wait.run_grows client token w
  cases checked : wait.config.fault? with
  | some fault =>
    rw [run_of_fault checked, World.callsUntil_self] at member
    cases member
  | none =>
    have valid := ConvergenceConfig.fault?_eq_none_iff.mp checked
    obtain ⟨early, punctual⟩ := run_early valid client token w
    obtain ⟨_, earlier, inTime⟩ := early.mem_callsUntil member
    exact ⟨(unfired.mem_callsUntil member).2.2.1, Nat.le_trans earlier punctual, inTime⟩

/-- **A wait only reads, in a fixed order.** Whatever it is answered, the calls of a wait are a look
at the service and rounds of three calls, the last of which may be cut short. Each call but the
first is made after the one before it has succeeded, on a course on which nothing has decided the
wait so far; each is made while the token has not fired, no later than the deadline, and, if it
begins a round, before it. A wait that succeeds counts its rounds. So a service that was updated is
left alone. -/
theorem run_reads (wait : Wait) (client : Client σ) (token : Token) (w : World σ) :
    ∃ result after log, wait.run client token w = (result, after) ∧
      wait.run client.logged token (w.logged []) = (result, after.logged log) ∧
      (w.callsUntil after).map Prod.snd = log.map Sigma.fst ∧
      log.map Sigma.fst <+: rounds wait.service (pollsStarted w after) ∧
      (∀ entry ∈ log.dropLast, entry.Succeeded) ∧
      wait.Course log (pollsStarted w after) result ∧
      (∀ made ∈ w.callsUntil after, token.hasFired made.1 = false ∧
        made.1 ≤ wait.deadline w.now ∧
        (made.2.operation = .inspectService → made.1 < wait.deadline w.now)) ∧
      (∀ convergence, result = .ok convergence →
        convergence.polls = min (pollsStarted w after) pollLimit) ∧
      ∀ made ∈ w.callsUntil (Operation.awaitUpdate client wait.service wait.config token w).2,
        made.2.operation.isRead = true := by
  obtain ⟨result, after, log, polls, ended, ran, logs, course⟩ := run_logged wait client token w
  have allowed := call_of_run wait client token w
  have grows := wait.run_grows client token w
  rw [ended] at allowed grows
  have calls : (w.callsUntil after).map Prod.snd = log.map Sigma.fst := logs.callsUntil_eq grows
  have counted : pollsStarted w after = polls := by
    rw [pollsStarted_eq grows, calls, course.countP_calls]
  subst counted
  refine ⟨result, after, log, ended, ran, calls, course.calls, course.succeeded, course, allowed,
    ?_, ?_⟩
  · rintro convergence rfl
    exact course.counted
  · intro made member
    have updates := Wait.run_grows ⟨wait.service, wait.config, .updating⟩ client token w
    exact (updates.mem_callsUntil member).2.2.2.isRead

end Wait

end ReplicaWatch
