/-! # Reported states

The states in which an orchestrator reports tasks, nodes and rollouts. Tasks go
through a fixed lifecycle; a task may also be reported in a state that is not part
of it, and that state's text is then kept (`ReportedState.unknown`).
-/

namespace ReplicaWatch

/-- The states of a task's lifecycle, in the order in which a task can pass through
them. -/
inductive TaskState where
  | new
  | allocated
  | pending
  | assigned
  | accepted
  | preparing
  | ready
  | starting
  | running
  | complete
  | shutdown
  | failed
  | rejected
  deriving DecidableEq

namespace TaskState

/-- All states of the lifecycle, in order. -/
def lifecycle : List TaskState :=
  [.new, .allocated, .pending, .assigned, .accepted, .preparing, .ready, .starting, .running,
    .complete, .shutdown, .failed, .rejected]

/-- The name under which a state is reported. -/
def name : TaskState → String
  | .new => "new"
  | .allocated => "allocated"
  | .pending => "pending"
  | .assigned => "assigned"
  | .accepted => "accepted"
  | .preparing => "preparing"
  | .ready => "ready"
  | .starting => "starting"
  | .running => "running"
  | .complete => "complete"
  | .shutdown => "shutdown"
  | .failed => "failed"
  | .rejected => "rejected"

/-- The state with a name. -/
def ofName? (name : String) : Option TaskState :=
  lifecycle.find? fun state => state.name == name

/-- A state's place in the lifecycle, from 1 to 13. -/
def rank : TaskState → Nat
  | .new => 1
  | .allocated => 2
  | .pending => 3
  | .assigned => 4
  | .accepted => 5
  | .preparing => 6
  | .ready => 7
  | .starting => 8
  | .running => 9
  | .complete => 10
  | .shutdown => 11
  | .failed => 12
  | .rejected => 13

/-- Whether a state lies past `running`, so that the task will not run again. -/
def isTerminal (state : TaskState) : Bool := running.rank < state.rank

theorem ofName?_name (state : TaskState) : ofName? state.name = some state := by
  cases state <;> decide

theorem name_of_ofName? {name : String} {state : TaskState} (found : ofName? name = some state) :
    state.name = name := by
  simpa using List.find?_some found

end TaskState

/-- A task's state as the orchestrator reported it. -/
inductive ReportedState where
  /-- A state of the lifecycle. -/
  | known (state : TaskState)
  /-- Any other text. -/
  | unknown (text : String)
  deriving DecidableEq

namespace ReportedState

/-- The reported state that a text stands for. -/
def ofText (text : String) : ReportedState :=
  match TaskState.ofName? text with
  | some state => .known state
  | none => .unknown text

/-- The text of a reported state. -/
def text : ReportedState → String
  | .known state => state.name
  | .unknown text => text

/-- The state of the lifecycle, if it is one. -/
def state? : ReportedState → Option TaskState
  | .known state => some state
  | .unknown _ => none

/-- Whether exactly this state is reported. -/
def is (reported : ReportedState) (state : TaskState) : Bool := reported.state? == some state

/-- The place of a reported state in the lifecycle. -/
def rank? (reported : ReportedState) : Option Nat := reported.state?.map TaskState.rank

/-- A reported state is normal when a text stands for it: no name of the lifecycle is
kept as an unknown text. -/
def Normal : ReportedState → Prop
  | .known _ => True
  | .unknown text => TaskState.ofName? text = none

instance : (reported : ReportedState) → Decidable reported.Normal
  | .known _ => .isTrue trivial
  | .unknown text => inferInstanceAs (Decidable (TaskState.ofName? text = none))

theorem normal_ofText (text : String) : (ofText text).Normal := by
  unfold ofText
  split
  · trivial
  · next missing => exact missing

@[simp] theorem text_ofText (text : String) : (ofText text).text = text := by
  unfold ofText
  split
  · next found => exact TaskState.name_of_ofName? found
  · rfl

theorem ofText_text {reported : ReportedState} (normal : reported.Normal) :
    ofText reported.text = reported := by
  cases reported with
  | known state => simp [ofText, text, TaskState.ofName?_name]
  | unknown text =>
    have missing : TaskState.ofName? text = none := normal
    simp [ofText, ReportedState.text, missing]

end ReportedState

/-- The availability of a node. -/
inductive NodeState where
  | down
  | ready
  | disconnected
  /-- Any other report. -/
  | unknown
  deriving DecidableEq

namespace NodeState

/-- The name of an availability. -/
def name : NodeState → String
  | .down => "down"
  | .ready => "ready"
  | .disconnected => "disconnected"
  | .unknown => "unknown"

/-- The availability that a text reports. -/
def ofText (text : String) : NodeState :=
  if text = "down" then .down
  else if text = "ready" then .ready
  else if text = "disconnected" then .disconnected
  else .unknown

@[simp] theorem ofText_name (state : NodeState) : ofText state.name = state := by
  cases state <;> rfl

end NodeState

/-- How far the rollout of a service update has come. -/
inductive RolloutState where
  | updating
  | paused
  | completed
  | rollbackStarted
  | rollbackPaused
  | rollbackCompleted
  deriving DecidableEq

namespace RolloutState

/-- All rollout states. -/
def all : List RolloutState :=
  [.updating, .paused, .completed, .rollbackStarted, .rollbackPaused, .rollbackCompleted]

/-- The name under which a rollout state is reported. -/
def name : RolloutState → String
  | .updating => "updating"
  | .paused => "paused"
  | .completed => "completed"
  | .rollbackStarted => "rollback_started"
  | .rollbackPaused => "rollback_paused"
  | .rollbackCompleted => "rollback_completed"

/-- The rollout state with a name. -/
def ofName? (name : String) : Option RolloutState :=
  all.find? fun state => state.name == name

@[simp] theorem ofName?_name (state : RolloutState) : ofName? state.name = some state := by
  cases state <;> decide

end RolloutState

end ReplicaWatch
