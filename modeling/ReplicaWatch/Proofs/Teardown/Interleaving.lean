import Mathlib.Data.DFinsupp.WellFounded
import ReplicaWatch.Proofs.Teardown.Rehearsed

/-! # Teardowns at once

Any number of teardowns of one service share a cluster (`Teardown.Fleet`), and one of them moves at
a time: it makes a call, begins to wait for a container, or stops waiting. A teardown that is run on
its own makes such moves (`Teardown.play_interleaves`).

Whatever the order of their moves, the cluster answers one call after another
(`Interleaving.answers`), and each teardown follows its own course on what it was answered itself
(`Interleaving.course`). Their moves come to an end (`Fleet.step_wellFounded`), and not before each
of them has a result (`Interleaving.moves_on`).
-/

namespace ReplicaWatch.Teardown

/-- What a teardown still has to do. -/
abbrev Remainder : Type := Dialogue Move Move.Answer (Except ClusterError TeardownReport)

/-- Where a teardown stands. -/
inductive Thread where
  | running (rest : Remainder)
  /-- It waits for a container that lingers, and goes on when the wait ends. -/
  | waiting (rest : Remainder)

namespace Thread

variable {id : String} {cluster after : ScriptedCluster} {thread thread' : Thread}
  {entries later : List Call.Entry} {outcome : Option (Except ClusterError TeardownReport)}

def rest : Thread → Remainder
  | .running rest => rest
  | .waiting rest => rest

/-- The moves of a teardown, each with the call that the cluster answers, if it gets one. How long a
wait lasts is left open, and whether it is begun: the token may fire at any time. -/
inductive Moves (cluster : ScriptedCluster) :
    Thread → List Call.Entry → ScriptedCluster → Thread → Prop where
  | called {after : ScriptedCluster} {request : Call} {next : request.Answer → Remainder}
      {answer : request.Answer} (answered : cluster.answer request = (some answer, after)) :
      Moves cluster (.running (.ask (.call request) next)) [⟨request, some answer⟩] after
        (.running (next answer))
  | awaited {after : ScriptedCluster} {container : String} {period : Duration}
      {next : Unit → Remainder} {answer : (Call.waitContainerRemoved container).Answer}
      (answered : cluster.answer (.waitContainerRemoved container) = (some answer, after)) :
      Moves cluster (.running (.ask (.grace container period) next))
        [⟨.waitContainerRemoved container, some answer⟩] after (.running (next ()))
  | lingering {after : ScriptedCluster} {container : String} {period : Duration}
      {next : Unit → Remainder}
      (unanswered : cluster.answer (.waitContainerRemoved container) = (none, after)) :
      Moves cluster (.running (.ask (.grace container period) next))
        [⟨.waitContainerRemoved container, none⟩] after (.waiting (next ()))
  | hurried {container : String} {period : Duration} {next : Unit → Remainder} :
      Moves cluster (.running (.ask (.grace container period) next)) [] cluster
        (.running (next ()))
  | waited {rest : Remainder} : Moves cluster (.waiting rest) [] cluster (.running rest)

/-- The calls of a move are answered by the cluster. -/
theorem Moves.answers (moves : thread.Moves cluster entries after thread') :
    cluster.Answers entries after := by
  cases moves with
  | called answered => exact .single answered
  | awaited answered => exact .single answered
  | lingering unanswered => exact .single unanswered
  | hurried => exact .nil cluster
  | waited => exact .nil cluster

/-- What a run may ask for does not change as it moves. -/
theorem Moves.asks (moves : thread.Moves cluster entries after thread')
    (asks : thread.rest.Asks (Move.Tears id)) : thread'.rest.Asks (Move.Tears id) := by
  cases moves with
  | called => exact asks.2 _
  | awaited => exact asks.2 ()
  | lingering => exact asks.2 ()
  | hurried => exact asks.2 ()
  | waited => exact asks

/-- What a teardown logs from now on is what its move logs, and what it logs after that. -/
theorem Moves.logs (moves : thread.Moves cluster entries after thread')
    (logs : Logs True thread'.rest later outcome) :
    Logs True thread.rest (entries ++ later) outcome := by
  cases moves with
  | called => exact .answered _ logs
  | awaited => exact .awaited _ logs
  | lingering => exact .awaited none logs
  | hurried => exact .skipped trivial logs
  | waited => exact logs

/-- A run has ended, or it can move. -/
theorem moves_on (asks : thread.rest.Asks (Move.Tears id)) (cluster : ScriptedCluster) :
    (∃ result, thread = .running (.finish result)) ∨
      ∃ entries after thread', thread.Moves cluster entries after thread' := by
  cases thread with
  | waiting rest => exact .inr ⟨_, _, _, .waited⟩
  | running rest =>
    cases rest with
    | finish result => exact .inl ⟨result, rfl⟩
    | ask move next =>
      cases move with
      | call request =>
        obtain ⟨answer, after, answered⟩ := cluster.answer_isSome asks.1.prompt
        exact .inr ⟨_, _, _, .called answered⟩
      | grace container period =>
        rcases answered : cluster.answer (.waitContainerRemoved container) with ⟨_ | answer, after⟩
        · exact .inr ⟨_, _, _, .lingering answered⟩
        · exact .inr ⟨_, _, _, .awaited answered⟩

/-- One teardown is where the other one gets by a move. -/
def After (thread' thread : Thread) : Prop :=
  ∃ cluster entries after, thread.Moves cluster entries after thread'

/-- No run moves on for ever. -/
theorem after_wellFounded : WellFounded After := by
  have waits (rest : Remainder) (ready : Acc After (.running rest)) :
      Acc After (.waiting rest) := by
    refine ⟨_, ?_⟩
    rintro _ ⟨_, _, _, ⟨⟩⟩
    exact ready
  have runs (rest : Remainder) : Acc After (.running rest) := by
    induction rest with
    | finish result =>
      refine ⟨_, ?_⟩
      rintro _ ⟨_, _, _, ⟨⟩⟩
    | ask move next ih =>
      refine ⟨_, ?_⟩
      rintro _ ⟨_, _, _, moves⟩
      cases moves with
      | called => exact ih _
      | awaited => exact ih ()
      | lingering => exact waits _ (ih ())
      | hurried => exact ih ()
  refine ⟨fun thread => ?_⟩
  cases thread with
  | running rest => exact runs rest
  | waiting rest => exact waits rest (runs rest)

end Thread

/-- Teardowns at once, and the cluster that they share. -/
structure Fleet (n : Nat) where
  cluster : ScriptedCluster
  threads : Fin n → Thread

/-- The calls that one of the teardowns made. -/
def own {n : Nat} (i : Fin n) (journal : List (Fin n × Call.Entry)) : List Call.Entry :=
  (journal.filter (·.1 = i)).map Prod.snd

section Own

variable {n : Nat} {i j : Fin n} {journal : List (Fin n × Call.Entry)} {entry : Call.Entry}

/-- A run's own calls are those of the journal that it made. -/
theorem mem_own : entry ∈ own i journal ↔ (i, entry) ∈ journal := by
  simp [own]

/-- A run makes its own calls in the order of the journal. -/
theorem own_sublist : (own i journal).Sublist (journal.map Prod.snd) :=
  List.filter_sublist.map Prod.snd

/-- A journal shared by several runs is read run by run. -/
theorem own_append (others : List (Fin n × Call.Entry)) :
    own i (journal ++ others) = own i journal ++ own i others := by
  simp [own]

theorem own_made (entries : List Call.Entry) : own i (entries.map (i, ·)) = entries := by
  simp [own, List.filter_map, Function.comp_def]

theorem own_of_ne (other : i ≠ j) (entries : List Call.Entry) :
    own i (entries.map (j, ·)) = [] := by
  simp [own, List.filter_map, Function.comp_def, other.symm]

end Own

namespace Fleet

variable {n : Nat} {id : String} {before after : Fleet n} {entries : List (Fin n × Call.Entry)}
  {later : List Call.Entry} {outcome : Option (Except ClusterError TeardownReport)}

/-- Teardowns of one service that are about to begin. -/
def start (n : Nat) (id : String) (cluster : ScriptedCluster) : Fleet n :=
  ⟨cluster, fun _ => .running (dialogue id)⟩

/-- One of the teardowns has a result. -/
def Ended (fleet : Fleet n) (i : Fin n) (result : Except ClusterError TeardownReport) : Prop :=
  fleet.threads i = .running (.finish result)

/-- The fleet after a move of one of the teardowns. -/
def moved (fleet : Fleet n) (i : Fin n) (cluster : ScriptedCluster) (thread : Thread) : Fleet n :=
  ⟨cluster, Function.update fleet.threads i thread⟩

/-- A run that has moved stands where it moved to. -/
@[simp]
theorem moved_threads (fleet : Fleet n) (i : Fin n) (cluster : ScriptedCluster)
    (thread : Thread) : (fleet.moved i cluster thread).threads i = thread := by
  simp only [moved, Function.update_self]

/-- The other runs stand where they stood. -/
theorem moved_threads_of_ne (fleet : Fleet n) {i j : Fin n} (other : j ≠ i)
    (cluster : ScriptedCluster) (thread : Thread) :
    (fleet.moved i cluster thread).threads j = fleet.threads j := by
  simp only [moved, Function.update_of_ne other]

/-- Of two moves of a run, the last one counts. -/
theorem moved_moved (fleet : Fleet n) (i : Fin n) (cluster cluster' : ScriptedCluster)
    (thread thread' : Thread) :
    (fleet.moved i cluster thread).moved i cluster' thread' = fleet.moved i cluster' thread' := by
  rw [moved, moved, Function.update_idem, moved]

/-- One of the teardowns moves. The calls that are answered are noted, each with the teardown that
made it. -/
inductive Step (fleet : Fleet n) : List (Fin n × Call.Entry) → Fleet n → Prop where
  | move (i : Fin n) {entries : List Call.Entry} {cluster : ScriptedCluster} {thread : Thread}
      (moves : (fleet.threads i).Moves fleet.cluster entries cluster thread) :
      Step fleet (entries.map (i, ·)) (fleet.moved i cluster thread)

/-- The calls of a step are answered by the cluster that the runs share. -/
theorem Step.answers (step : before.Step entries after) :
    before.cluster.Answers (entries.map Prod.snd) after.cluster := by
  obtain ⟨i, moves⟩ := step
  rw [List.map_map, Function.comp_def, List.map_id']
  exact moves.answers

/-- What the runs may ask for does not change in a step. -/
theorem Step.asks (step : before.Step entries after)
    (asks : ∀ i, (before.threads i).rest.Asks (Move.Tears id)) (i : Fin n) :
    (after.threads i).rest.Asks (Move.Tears id) := by
  obtain ⟨j, moves⟩ := step
  by_cases same : i = j
  · subst same
    rw [moved_threads]
    exact moves.asks (asks i)
  · rw [moved_threads_of_ne _ same]
    exact asks i

/-- If what is left of a run behind a step makes some calls, then the run makes those of the step
and then these. -/
theorem Step.logs (step : before.Step entries after) {i : Fin n}
    (logs : Logs True (after.threads i).rest later outcome) :
    Logs True (before.threads i).rest (own i entries ++ later) outcome := by
  obtain ⟨j, moves⟩ := step
  by_cases same : i = j
  · subst same
    rw [moved_threads] at logs
    rw [own_made]
    exact moves.logs logs
  · rw [moved_threads_of_ne _ same] at logs
    rwa [own_of_ne same]

/-- **The moves of teardowns at once come to an end.** -/
theorem step_wellFounded :
    WellFounded fun after before : Fleet n => ∃ entries, before.Step entries after := by
  have shrinks : WellFounded (Pi.Lex (· < ·) fun {_ : Fin n} => Thread.After) :=
    Pi.Lex.wellFounded (· < ·) fun _ => Thread.after_wellFounded
  apply Subrelation.wf _ (InvImage.wf Fleet.threads shrinks)
  rintro _ before ⟨_, ⟨i, moves⟩⟩
  refine ⟨i, fun j less => moved_threads_of_ne before less.ne _ _, ?_⟩
  rw [moved_threads]
  exact ⟨_, _, _, moves⟩

end Fleet

/-- Teardowns at once make moves, one after another. -/
inductive Interleaving {n : Nat} : Fleet n → List (Fin n × Call.Entry) → Fleet n → Prop where
  | done (fleet : Fleet n) : Interleaving fleet [] fleet
  | step {before middle after : Fleet n} {entries journal : List (Fin n × Call.Entry)}
      (first : before.Step entries middle) (rest : Interleaving middle journal after) :
      Interleaving before (entries ++ journal) after

namespace Interleaving

variable {n : Nat} {id : String} {before after : Fleet n} {journal : List (Fin n × Call.Entry)}
  {later : List Call.Entry} {outcome : Option (Except ClusterError TeardownReport)} {i : Fin n}
  {cluster : ScriptedCluster} {result : Except ClusterError TeardownReport}

/-- A move of one run comes before the rest of an interleaving. -/
theorem of_moves {thread thread' : Thread} {entries : List Call.Entry}
    (stands : before.threads i = thread)
    (moves : thread.Moves before.cluster entries cluster thread')
    (rest : Interleaving (before.moved i cluster thread') journal after) :
    Interleaving before (entries.map (i, ·) ++ journal) after := by
  subst stands
  exact .step (.move i moves) rest

/-- The cluster answers the calls of all teardowns one after another. -/
theorem answers (interleaving : Interleaving before journal after) :
    before.cluster.Answers (journal.map Prod.snd) after.cluster := by
  induction interleaving with
  | done fleet => exact .nil _
  | step first _ ih =>
    rw [List.map_append]
    exact first.answers.append ih

/-- What the runs may ask for does not change in an interleaving. -/
theorem asks (interleaving : Interleaving before journal after)
    (asks : ∀ i, (before.threads i).rest.Asks (Move.Tears id)) :
    ∀ i, (after.threads i).rest.Asks (Move.Tears id) := by
  induction interleaving with
  | done fleet => exact asks
  | step first _ ih => exact ih (first.asks asks)

/-- The own calls of a run, with those that are still to come, are the calls of that run alone. -/
theorem logs (interleaving : Interleaving before journal after)
    (logs : Logs True (after.threads i).rest later outcome) :
    Logs True (before.threads i).rest (own i journal ++ later) outcome := by
  induction interleaving with
  | done fleet => exact logs
  | step first _ ih =>
    rw [own_append, List.append_assoc]
    exact first.logs (ih logs)

/-- **Each teardown follows its course** on its own calls, whatever the others do meanwhile. -/
theorem course (interleaving : Interleaving (Fleet.start n id cluster) journal after)
    (ended : after.Ended i result) :
    ∃ containers, Course True id containers (own i journal) (some result) := by
  have finished : Logs True (after.threads i).rest [] (some result) := by
    rw [ended]
    exact .finished result
  have logs := interleaving.logs finished
  rw [List.append_nil] at logs
  exact dialogue_logs logs

/-- Behind any interleaving each run has ended, or it can move. -/
theorem moves_on (interleaving : Interleaving (Fleet.start n id cluster) journal after)
    (i : Fin n) :
    (∃ result, after.Ended i result) ∨
      ∃ entries cluster thread, (after.threads i).Moves after.cluster entries cluster thread :=
  Thread.moves_on (interleaving.asks (fun _ => dialogue_asks id) i) after.cluster

end Interleaving

/-- **A teardown that is run on its own** makes the moves of one of several teardowns, while the
others stand still. -/
theorem play_interleaves {n : Nat} {i : Fin n} {token : Token} {rest : Remainder}
    {w after : World Rehearsal} {result : Except ClusterError TeardownReport} {fleet : Fleet n}
    (running : fleet.threads i = .running rest) (shared : fleet.cluster = w.state.cluster)
    (played : play Rehearsal.client token rest w = (some result, after)) :
    ∃ journal, Interleaving fleet journal
      (fleet.moved i after.state.cluster (.running (.finish result))) := by
  induction rest generalizing w fleet with
  | finish _ =>
    cases played
    rw [← shared, ← running, Fleet.moved, Function.update_eq_self]
    exact ⟨[], .done fleet⟩
  | ask move next ih =>
    cases move with
    | call request =>
      have asked := Rehearsal.cluster_call request w
      unfold play at played
      split at played
      · next answer middle called =>
        rw [called, ← shared] at asked
        obtain ⟨journal, rest⟩ := ih answer (Fleet.moved_threads fleet i _ _) rfl played
        rw [Fleet.moved_moved] at rest
        exact ⟨_, .of_moves running (.called asked.symm) rest⟩
      · cases played
    | grace container period =>
      unfold play at played
      rcases Rehearsal.cluster_race (w.now + period.ticks) token (.waitContainerRemoved container)
        w with same | asked
      · rw [← shared] at same
        obtain ⟨journal, rest⟩ := ih () (Fleet.moved_threads fleet i _ _) same.symm played
        rw [Fleet.moved_moved] at rest
        exact ⟨_, .of_moves running .hurried rest⟩
      · rw [← shared] at asked
        obtain ⟨journal, rest⟩ := ih () (Fleet.moved_threads fleet i _ _) asked.symm played
        rw [Fleet.moved_moved] at rest
        rcases answered : fleet.cluster.answer (.waitContainerRemoved container) with
          ⟨_ | answer, left⟩
        · rw [answered, ← Fleet.moved_moved fleet i left left (.waiting (next ()))] at rest
          have waiting := Fleet.moved_threads fleet i left (.waiting (next ()))
          exact ⟨_, .of_moves running (.lingering answered) (.of_moves waiting .waited rest)⟩
        · rw [answered] at rest
          exact ⟨_, .of_moves running (.awaited answered) rest⟩

end ReplicaWatch.Teardown
