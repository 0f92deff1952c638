import ReplicaWatch.Convergence.Rehearsal
import ReplicaWatch.Proofs.Clock.Retelling
import ReplicaWatch.Proofs.Wait.Recording

/-! # Creations and update statuses

A wait for a service that was created is the wait for one that was updated, over a cluster that
says nothing about updates (`Wait.run_creating`). Three facts lead there. A poll of a creation is
the poll of an update that hears no status (`Session.poll_retold`); a wait cannot tell whether the
client or the poll leaves the status out (`Wait.run_retold`); and for a scripted cluster, leaving
it out of the answers is leaving it out of the script (`ScriptedCluster.answer_withoutUpdates`).
-/

namespace ReplicaWatch

/-- The service without its update status. -/
def Service.withoutUpdate (service : Service) : Service := { service with updateStatus := none }

/-- An answer without the update status in it. -/
def Call.withoutUpdate : Call.Retelling
  | .inspectService _, answer => answer.map Service.withoutUpdate
  | .listTasks _, answer => answer
  | .listNodes, answer => answer
  | .removeService _, answer => answer
  | .removeContainer _ _, answer => answer
  | .waitContainerRemoved _, answer => answer

/-- A frame whose service has no update status. -/
def Frame.withoutUpdate (frame : Frame) : Frame :=
  { frame with service := frame.service.map Service.withoutUpdate }

/-! ## The script -/

namespace ScriptedCluster

/-- The cluster with no update status in its script. -/
def withoutUpdates (cluster : ScriptedCluster) : ScriptedCluster :=
  { cluster with frames := cluster.frames.map Frame.withoutUpdate }

variable (cluster : ScriptedCluster)

@[simp] theorem removedServices_withoutUpdates :
    cluster.withoutUpdates.removedServices = cluster.removedServices := rfl

@[simp] theorem failures_withoutUpdates : cluster.withoutUpdates.failures = cluster.failures := rfl

@[simp] theorem container?_withoutUpdates (id : String) :
    cluster.withoutUpdates.container? id = cluster.container? id := rfl

/-- The frame that is shown is the same, without an update status. -/
theorem currentFrame?_withoutUpdates :
    cluster.withoutUpdates.currentFrame? = cluster.currentFrame?.map Frame.withoutUpdate := by
  simp only [currentFrame?, withoutUpdates, List.getElem?_map, List.getLast?_map]
  cases cluster.frames[cluster.inspections - 1]? <;> rfl

/-- A service that is found is the same, without its update status. -/
theorem service?_withoutUpdates (id : String) :
    cluster.withoutUpdates.service? id = (cluster.service? id).map Service.withoutUpdate := by
  unfold service?
  rw [currentFrame?_withoutUpdates, removedServices_withoutUpdates]
  by_cases removed : cluster.removedServices.contains id = true
  · rw [if_pos removed, if_pos removed]
    rfl
  · rw [if_neg removed, if_neg removed]
    rcases cluster.currentFrame? with _ | ⟨_ | service, tasks, nodes⟩
    · rfl
    · rfl
    · simp only [Option.map_some, Frame.withoutUpdate, Option.filter_some,
        apply_ite (Option.map Service.withoutUpdate)]
      rfl

/-- The same tasks are listed. -/
theorem tasksFor_withoutUpdates (filter : TaskFilter) :
    cluster.withoutUpdates.tasksFor filter = cluster.tasksFor filter := by
  unfold tasksFor
  rw [currentFrame?_withoutUpdates]
  cases cluster.currentFrame? <;> rfl

/-- The same nodes are listed. -/
theorem nodes_withoutUpdates : cluster.withoutUpdates.nodes = cluster.nodes := by
  unfold nodes
  rw [currentFrame?_withoutUpdates]
  cases cluster.currentFrame? <;> rfl

/-- The same services are known. -/
theorem knows_withoutUpdates (id : String) :
    cluster.withoutUpdates.knows id = cluster.knows id := by
  simp only [knows, withoutUpdates, List.any_map]
  congr 1
  funext frame
  rcases frame with ⟨_ | service, tasks, nodes⟩ <;> rfl

/-- What a call does does not depend on update statuses, and none of them is in its answer when
the script has none. -/
theorem perform_withoutUpdates (call : Call) :
    cluster.withoutUpdates.perform call =
      Prod.map (Option.map call.withoutUpdate) withoutUpdates (cluster.perform call) := by
  cases call with
  | listTasks filter =>
    change (some (Except.ok (cluster.withoutUpdates.tasksFor filter)), cluster.withoutUpdates) = _
    rw [tasksFor_withoutUpdates]
    rfl
  | listNodes =>
    change (some (Except.ok cluster.withoutUpdates.nodes), cluster.withoutUpdates) = _
    rw [nodes_withoutUpdates]
    rfl
  | inspectService id =>
    have shown := service?_withoutUpdates { cluster with inspections := cluster.inspections + 1 } id
    unfold perform
    dsimp only [withoutUpdates] at shown ⊢
    rw [shown]
    cases service? { cluster with inspections := cluster.inspections + 1 } id <;> rfl
  | removeService id =>
    dsimp only [perform]
    rw [knows_withoutUpdates, removedServices_withoutUpdates]
    by_cases held : (cluster.knows id && !cluster.removedServices.contains id) = true
    · rw [if_pos held, if_pos held]
      rfl
    · rw [if_neg held, if_neg held]
      rfl
  | removeContainer id options =>
    dsimp only [perform]
    rw [container?_withoutUpdates]
    cases cluster.container? id <;> rfl
  | waitContainerRemoved id =>
    dsimp only [perform]
    rw [container?_withoutUpdates]
    rcases cluster.container? id with _ | code | _ <;> rfl

/-- **One call.** Without update statuses in the script, the answer is the same without an update
status in it, and the clusters behind the call differ in nothing else. -/
theorem answer_withoutUpdates (call : Call) :
    cluster.withoutUpdates.answer call =
      Prod.map (Option.map call.withoutUpdate) withoutUpdates (cluster.answer call) := by
  unfold answer
  rw [failures_withoutUpdates]
  rcases cluster.failures call.operation with _ | ⟨error, later⟩
  · exact perform_withoutUpdates (cluster.noting call) call
  · cases call <;> rfl

end ScriptedCluster

namespace Rehearsal

/-- The rehearsal of a script that has no update status in it. -/
def withoutUpdates (rehearsal : Rehearsal) : Rehearsal :=
  { rehearsal with cluster := rehearsal.cluster.withoutUpdates }

/-- Leaving the update statuses out of the answers is leaving them out of the script. -/
theorem withoutUpdates_view :
    (client.retold Call.withoutUpdate).View client withoutUpdates where
  travel _ _ := rfl
  answer call rehearsal := by
    dsimp only [client, withoutUpdates]
    rw [ScriptedCluster.answer_withoutUpdates]
    rfl

end Rehearsal

/-! ## The poll -/

namespace Session

variable (session : Session)

/-- What is observed of a service does not depend on its update status. -/
theorem observe_withoutUpdate (service : Service) (tasks : List Task) (nodes : List Node)
    (rollback : Bool) :
    session.observe ⟨service.withoutUpdate, tasks, nodes⟩ rollback =
      session.observe ⟨service, tasks, nodes⟩ rollback := rfl

/-- Unless it is being rolled back, nothing of the message of an update is in a count. -/
theorem count_withoutUpdate (service : Service) (tasks : List Task) (nodes : List Node) :
    session.count ⟨service.withoutUpdate, tasks, nodes⟩ false =
      session.count ⟨service, tasks, nodes⟩ false := by
  unfold count
  rw [observe_withoutUpdate]
  rcases session.observe ⟨service, tasks, nodes⟩ false with ⟨error | progress, after⟩
  · rfl
  · simp only [Outcome.settle, Bool.false_eq_true, ↓reduceIte]

/-- **A poll of a creation.** It is the poll of an update that hears no update status. -/
theorem poll_retold (id : String) (timeout : Duration) :
    (session.poll .updating id timeout).retold Call.withoutUpdate =
      session.poll .creating id timeout := by
  refine congrArg (Dialogue.ask _) (funext fun answer => ?_)
  cases answer with
  | error source => rfl
  | ok service =>
    -- Without a status the verdict on an update is to count, as it is on every creation.
    refine congrArg (Dialogue.ask _) (funext fun listed => ?_)
    cases listed with
    | error source => rfl
    | ok tasks =>
      refine congrArg (Dialogue.ask _) (funext fun found => ?_)
      cases found with
      | error source => rfl
      | ok nodes => exact congrArg Dialogue.finish (session.count_withoutUpdate service tasks nodes)

end Session

/-! ## The wait -/

/-- The success that a wait in some mode answers. -/
def Convergence.inMode (mode : ConvergenceMode) (convergence : Convergence) : Convergence :=
  { convergence with mode := mode }

namespace Wait

variable {σ : Type} {client : Client σ} {token : Token} {started : Nat}

/-- The wait in some mode. -/
def inMode (mode : ConvergenceMode) (wait : Wait) : Wait := { wait with mode := mode }

/-- What part of a wait leads to, told as the wait in some mode tells it. -/
def Turn.inMode (mode : ConvergenceMode) : Turn σ → Turn σ
  | .ended out => .ended (Prod.map (Except.map (Convergence.inMode mode)) id out)
  | .again standing => .again standing

variable (wait : Wait)

/-- The poll of a creation is that of an update that hears no status. -/
theorem poll_creating (session : Session) (w : World σ) :
    (wait.inMode .creating).poll client token started session w =
      (wait.inMode .updating).poll (client.retold Call.withoutUpdate) token started session w := by
  unfold Wait.poll
  rw [Dialogue.race_retold]
  dsimp only [inMode]
  rw [Session.poll_retold]
  rfl

/-- So is a turn, but for the mode of what it goes on with. -/
theorem turn_creating (standing : Standing σ) :
    (wait.inMode .creating).turn client token started standing =
      ((wait.inMode .updating).turn (client.retold Call.withoutUpdate) token started
        standing).inMode .creating := by
  have ends :=
    turn_ends (wait.inMode .updating) (client.retold Call.withoutUpdate) token started standing
  generalize (wait.inMode .updating).turn (client.retold Call.withoutUpdate) token started
    standing = turn at ends ⊢
  cases ends with
  | late late => exact TurnEnds.turn_eq (.late late)
  | cancelled left poll =>
    exact TurnEnds.turn_eq (.cancelled left ((wait.poll_creating _ _).trans poll))
  | expired left poll =>
    exact TurnEnds.turn_eq (.expired left ((wait.poll_creating _ _).trans poll))
  | refused left poll =>
    exact TurnEnds.turn_eq (.refused left ((wait.poll_creating _ _).trans poll))
  | converged left poll outcome =>
    exact TurnEnds.turn_eq (.converged left ((wait.poll_creating _ _).trans poll) outcome)
  | rolledOut left poll outcome =>
    exact TurnEnds.turn_eq (.rolledOut left ((wait.poll_creating _ _).trans poll) outcome)
  | interrupted left poll outcome pause =>
    exact TurnEnds.turn_eq
      (.interrupted left ((wait.poll_creating _ _).trans poll) outcome pause)
  | pending left poll outcome pause =>
    exact TurnEnds.turn_eq (.pending left ((wait.poll_creating _ _).trans poll) outcome pause)

/-- The look at the number of replicas does not need the update status. -/
theorem preflight_creating (w : World σ) :
    (wait.inMode .creating).preflight client token w =
      (wait.inMode .updating).preflight (client.retold Call.withoutUpdate) token w := by
  unfold preflight
  rw [World.race_retold]
  dsimp only [inMode]
  rcases w.race client (w.now + wait.config.timeout.ticks) token
    (.inspectService wait.service) with ⟨(source | service) | _ | _, after⟩
  · rfl
  · rfl
  · rfl
  · rfl

/-- So is the opening. -/
theorem opening_creating (w : World σ) :
    (wait.inMode .creating).opening client token w =
      ((wait.inMode .updating).opening (client.retold Call.withoutUpdate) token w).inMode
        .creating := by
  unfold opening
  rw [preflight_creating]
  rcases (wait.inMode .updating).preflight (client.retold Call.withoutUpdate) token w with
    ⟨error | _, inspected⟩
  · rfl
  · dsimp only
    rw [show (wait.inMode .creating).pause token w.now (wait.inMode .creating).config.delay
        inspected = (wait.inMode .updating).pause token w.now
          (wait.inMode .updating).config.delay inspected from rfl]
    rcases (wait.inMode .updating).pause token w.now (wait.inMode .updating).config.delay
      inspected with ⟨awake | awake, after⟩
    · rfl
    · rfl

/-- Turns of a creation follow the turns of an update that hears no update status. -/
theorem Unfolds.creating {turn : Turn σ} {turns : Nat}
    {out : Except ConvergenceError Convergence × World σ}
    (unfolds : Unfolds (wait.inMode .updating) (client.retold Call.withoutUpdate) token started
      turn turns out) :
    Unfolds (wait.inMode .creating) client token started (turn.inMode .creating) turns
      (Prod.map (Except.map (Convergence.inMode .creating)) id out) := by
  induction unfolds with
  | ended out => exact .ended _
  | @again standing turns out rest ih =>
    rw [← turn_creating] at ih
    exact .again ih

/-- **Creations and updates.** Over any client, a wait for a service that was created is the wait
for one that was updated when no update status is heard of. -/
theorem run_retold (client : Client σ) (token : Token) (w : World σ) :
    (wait.inMode .creating).run client token w =
      Prod.map (Except.map (Convergence.inMode .creating)) id
        ((wait.inMode .updating).run (client.retold Call.withoutUpdate) token w) := by
  cases checked : wait.config.fault? with
  | some fault =>
    have same (mode : ConvergenceMode) : (wait.inMode mode).config.fault? = some fault := checked
    rw [run_of_fault (same .creating), run_of_fault (same .updating)]
    rfl
  | none =>
    have valid (mode : ConvergenceMode) : (wait.inMode mode).config.Valid :=
      ConvergenceConfig.fault?_eq_none_iff.mp checked
    obtain ⟨turns, unfolds⟩ := run_unfolds (valid .creating) client token w
    obtain ⟨others, retold⟩ :=
      run_unfolds (valid .updating) (client.retold Call.withoutUpdate) token w
    rw [opening_creating] at unfolds
    exact unfolds.unique (retold.creating wait)

/-- Two waits come to the same end: with the same result, at the same time, after the same
calls. -/
structure Alike (one other : Except ConvergenceError Convergence × World σ) : Prop where
  result : one.1 = other.1
  now : one.2.now = other.2.now
  calls : one.2.calls = other.2.calls

namespace Alike

variable {one two three : Except ConvergenceError Convergence × World σ}

theorem symm (alike : Alike one two) : Alike two one :=
  ⟨alike.result.symm, alike.now.symm, alike.calls.symm⟩

theorem trans (first : Alike one two) (second : Alike two three) : Alike one three :=
  ⟨first.result.trans second.result, first.now.trans second.now, first.calls.trans second.calls⟩

end Alike

/-- On a script, leaving the update statuses out changes nothing but the mode. -/
theorem alike_withoutUpdates (token : Token) (w : World Rehearsal) :
    Alike ((wait.inMode .creating).run Rehearsal.client token w)
      (Prod.map (Except.map (Convergence.inMode .creating)) id
        ((wait.inMode .updating).run Rehearsal.client token
          (w.map Rehearsal.withoutUpdates))) := by
  rw [run_view Rehearsal.withoutUpdates_view, run_retold]
  exact ⟨rfl, rfl, rfl⟩

/-- **No update status matters to a creation.** In a rehearsal, a wait for a service that was
created comes to the same end, but for the mode in its result, as the wait for one that was updated
on the script without its update statuses. Scripts that differ in nothing but their update statuses
are so the same to it. -/
theorem run_creating (token : Token) (w : World Rehearsal) :
    Alike ((wait.inMode .creating).run Rehearsal.client token w)
        (Prod.map (Except.map (Convergence.inMode .creating)) id
          ((wait.inMode .updating).run Rehearsal.client token
            (w.map Rehearsal.withoutUpdates))) ∧
      ∀ other : World Rehearsal,
        other.map Rehearsal.withoutUpdates = w.map Rehearsal.withoutUpdates →
          Alike ((wait.inMode .creating).run Rehearsal.client token other)
            ((wait.inMode .creating).run Rehearsal.client token w) := by
  refine ⟨wait.alike_withoutUpdates token w, ?_⟩
  intro other same
  have alike := wait.alike_withoutUpdates token other
  rw [same] at alike
  exact alike.trans (wait.alike_withoutUpdates token w).symm

/-- A service of one replica, which runs, with some update status. -/
private def reporting (status : Option UpdateStatus) : World Rehearsal :=
  ⟨0, .instant (.ofFrames
    [⟨some ⟨"svc", "svc", .replicated (some 1), status, none⟩,
      [⟨"a", "svc", 1, "n1", .known .running, .known .running, none, ""⟩], [⟨"n1", .ready⟩]⟩]), []⟩

/-- A paused update does not keep a creation from converging. -/
theorem run_creating_paused :
    (reporting (some ⟨.paused, "update paused"⟩)).map Rehearsal.withoutUpdates =
        (reporting none).map Rehearsal.withoutUpdates ∧
      Alike
        ((inMode .creating ⟨"svc", .standard, .updating⟩).run Rehearsal.client .never
          (reporting (some ⟨.paused, "update paused"⟩)))
        ((inMode .creating ⟨"svc", .standard, .updating⟩).run Rehearsal.client .never
          (reporting none)) :=
  ⟨rfl, (run_creating ⟨"svc", .standard, .updating⟩ .never (reporting none)).2 _ rfl⟩

end Wait

end ReplicaWatch
