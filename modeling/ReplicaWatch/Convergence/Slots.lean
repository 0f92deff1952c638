import ReplicaWatch.Cluster.Record

/-! # Resolving slots

A listing usually holds several tasks of one slot: an old one that shuts down and its
replacement that starts. `SlotMap.resolve` picks one task per slot. Tasks on nodes
that are not active and tasks in a state outside the lifecycle do not compete; of
those that do, the lowest desired state wins, then the lowest observed state, then
the smallest id, and of equal tasks the earlier one stays.
-/

namespace ReplicaWatch

/-- The ids of the nodes that tasks may count on. -/
structure ActiveNodes where
  ids : List String
  deriving DecidableEq

namespace ActiveNodes

/-- The distinct ids of the active nodes in a listing. -/
def ofNodes (nodes : List Node) : ActiveNodes :=
  ⟨((nodes.filter Node.isActive).map Node.id).eraseDups⟩

/-- Whether a task that is placed on a node may count. An unassigned task, which has
an empty node, always may. -/
def admits (active : ActiveNodes) (node : String) : Bool :=
  node.isEmpty || active.ids.contains node

end ActiveNodes

namespace Task

/-- Whether both states of a task belong to the lifecycle. -/
def isRanked (task : Task) : Bool :=
  task.desired.rank?.isSome && task.observed.rank?.isSome

/-- Whether a task competes for its slot. -/
def isCandidate (active : ActiveNodes) (task : Task) : Bool :=
  active.admits task.node && task.isRanked

/-- Whether one task of a slot goes before another: by the desired state, then by the
observed state, then by the id. -/
def precedes (a b : Task) : Bool :=
  let desired := (a.desired.rank?.getD 0, b.desired.rank?.getD 0)
  let observed := (a.observed.rank?.getD 0, b.observed.rank?.getD 0)
  decide (desired.1 < desired.2) || desired.1 == desired.2 &&
    (decide (observed.1 < observed.2) || observed.1 == observed.2 && decide (a.id < b.id))

/-- Whether a task counts towards the replicas that are wanted: it is wanted alive and
observed running. -/
def isSatisfied (task : Task) : Bool :=
  (match task.desired.state? with
    | some state => !state.isTerminal
    | none => false) && task.observed.is .running

end Task

/-- Tasks in strictly ascending order of their slots. -/
def SlotOrdered (tasks : List Task) : Prop :=
  tasks.Pairwise fun a b => a.slot < b.slot

namespace SlotOrdered

/-- Lets a task compete for its slot. -/
def contend (task : Task) : List Task → List Task
  | [] => [task]
  | holder :: rest =>
    if task.slot < holder.slot then task :: holder :: rest
    else if task.slot = holder.slot then
      (if task.precedes holder then task else holder) :: rest
    else holder :: contend task rest

theorem mem_contend {task t : Task} {tasks : List Task} (member : t ∈ contend task tasks) :
    t = task ∨ t ∈ tasks := by
  induction tasks with
  | nil => simpa [contend] using member
  | cons holder rest ih =>
    unfold contend at member
    split at member
    · simpa using member
    · split at member
      · split at member <;> simp only [List.mem_cons] at member ⊢ <;> grind
      · rcases List.mem_cons.mp member with rfl | later
        · exact Or.inr List.mem_cons_self
        · exact (ih later).imp_right (List.mem_cons_of_mem _)

theorem contend_ordered (task : Task) {tasks : List Task} (ordered : SlotOrdered tasks) :
    SlotOrdered (contend task tasks) := by
  induction tasks with
  | nil => exact List.pairwise_singleton _ _
  | cons holder rest ih =>
    have above := (List.pairwise_cons.mp ordered).1
    have tail := (List.pairwise_cons.mp ordered).2
    unfold contend
    split
    · next less =>
      refine List.pairwise_cons.mpr ⟨fun t member => ?_, ordered⟩
      rcases List.mem_cons.mp member with rfl | later
      · exact less
      · exact Nat.lt_trans less (above t later)
    · split
      · next same =>
        refine List.pairwise_cons.mpr ⟨fun t member => ?_, tail⟩
        have := above t member
        split <;> omega
      · refine List.pairwise_cons.mpr ⟨fun t member => ?_, ih tail⟩
        rcases mem_contend member with rfl | later
        · omega
        · exact above t later

end SlotOrdered

/-- One task per slot, each under its own slot, in ascending order of the slots. -/
structure SlotMap where
  tasks : List Task
  ordered : SlotOrdered tasks

namespace SlotMap

instance : DecidableEq SlotMap := fun a b =>
  if same : a.tasks = b.tasks then
    .isTrue (by cases a; cases b; cases same; rfl)
  else .isFalse fun equal => same (congrArg tasks equal)

/-- No slot is taken. -/
def empty : SlotMap := ⟨[], List.Pairwise.nil⟩

/-- Lets a task compete for its slot. -/
def contend (slots : SlotMap) (task : Task) : SlotMap :=
  ⟨SlotOrdered.contend task slots.tasks, SlotOrdered.contend_ordered task slots.ordered⟩

/-- Reduces a listing to one task per slot. -/
def resolve (tasks : List Task) (active : ActiveNodes) : SlotMap :=
  (tasks.filter (Task.isCandidate active)).foldl contend empty

/-- The task that holds a slot. -/
def get? (slots : SlotMap) (slot : Nat) : Option Task :=
  slots.tasks.find? fun task => task.slot == slot

/-- The number of slots that are taken. -/
def size (slots : SlotMap) : Nat := slots.tasks.length

/-- The number of slots that count towards the replicas that are wanted. -/
def countRunning (slots : SlotMap) : Nat := slots.tasks.countP Task.isSatisfied

end SlotMap

end ReplicaWatch
