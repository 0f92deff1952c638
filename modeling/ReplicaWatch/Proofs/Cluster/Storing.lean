import ReplicaWatch.Cluster.Form
import ReplicaWatch.Proofs.Json.Records
import ReplicaWatch.Proofs.Json.RoundTrip

/-! # Records that are stored

A record is kept by its stored form when that form is read as the record and can be written as a
text (`Json.Stored`). All records of a cluster are, but for numbers that are too long to be read and
for states that no text stands for (`Task.Sound`, `Service.Sound`).
-/

namespace ReplicaWatch

/-! ## Forms -/

namespace Json

variable {α : Type} {form : α → Json} {read : Json → Option α} {a : α}

/-- The form of `a` is read as `a`, and so is its text. -/
structure Stored (form : α → Json) (read : Json → Option α) (a : α) : Prop where
  integral : Integral (form a)
  back : read (form a) = some a

/-- The text of the form of `a` is read as `a`. -/
def Kept (form : α → Json) (read : Json → Option α) (a : α) : Prop :=
  (read? (form a).write).bind read = some a

/-- A value that is stored is read back from the text of its form. -/
theorem Stored.kept (stored : Stored form read a) : Kept form read a := by
  rw [Kept, read?_write stored.integral, Option.bind_some, stored.back]

theorem stored_string (s : String) : Stored string string? s := ⟨.string s, rfl⟩

theorem stored_natural {limit n : Nat} (small : n < limit) : Stored natural (natural? limit) n :=
  ⟨.natural n, natural?_natural small⟩

/-- What is `null` for nothing is stored, if what it is for something is stored and not `null`. -/
theorem stored_nullable {a? : Option α}
    (each : ∀ a, a? = some a → Stored form read a ∧ (form a).isNull = false) :
    Stored (nullable form) (nullable? read) a? := by
  cases a? with
  | none => exact ⟨.null, rfl⟩
  | some a =>
    obtain ⟨stored, solid⟩ := each a rfl
    refine ⟨stored.integral, ?_⟩
    rw [nullable, nullable?, stored.back]
    · rfl
    · intro null
      rw [null] at solid
      cases solid

end Json

open Json

/-! ## States -/

/-- A state of a task is stored by its name. -/
theorem TaskState.stored (state : TaskState) : Stored toJson ofJson? state :=
  ⟨.string _, ofName?_name state⟩

/-- A reported state is stored by its text, if a text stands for it. -/
theorem ReportedState.stored {reported : ReportedState} (normal : reported.Normal) :
    Stored toJson ofJson? reported :=
  ⟨.string _, congrArg some (ofText_text normal)⟩

/-- A state of a node is stored by its name. -/
theorem NodeState.stored (state : NodeState) : Stored toJson ofJson? state :=
  ⟨.string _, congrArg some (ofText_name state)⟩

/-- A state of a rollout is stored by its name. -/
theorem RolloutState.stored (state : RolloutState) : Stored toJson ofJson? state :=
  ⟨.string _, ofName?_name state⟩

/-- Every reported state that is read is normal. -/
theorem ReportedState.normal_of_ofJson? {value : Json} {reported : ReportedState}
    (read : ofJson? value = some reported) : reported.Normal := by
  obtain ⟨text, -, rfl⟩ := Option.map_eq_some_iff.mp read
  exact normal_ofText text

/-! ## Records -/

/-- A task whose slot fits into 64 bits and whose states are normal. -/
structure Task.Sound (task : Task) : Prop where
  slot : task.slot < wordLimit
  desired : task.desired.Normal
  observed : task.observed.Normal

/-- A service whose number of replicas fits into 64 bits. -/
structure Service.Sound (service : Service) : Prop where
  replicas : ∀ replicas, service.mode = .replicated (some replicas) → replicas < wordLimit

/-- A task is stored, if its slot fits and its states are normal. -/
theorem Task.stored {task : Task} (sound : task.Sound) : Stored toJson ofJson? task := by
  have slot := stored_natural sound.slot
  have desired := ReportedState.stored sound.desired
  have observed := ReportedState.stored sound.observed
  have container : Stored (nullable .string) (nullable? string?) task.containerId :=
    stored_nullable fun id _ => ⟨stored_string id, rfl⟩
  have own : entries? layout task.toJson = some _ :=
    entries?_own (by simp) (by simp [layout, Layout.exact])
  constructor
  · refine .record ?_
    simp [slot.integral, desired.integral, observed.integral, container.integral, Integral.string]
  · rw [ofJson?, own]
    simp [required?, default?, List.lookup_cons, slot.back, desired.back, observed.back,
      container.back]

theorem Node.stored (node : Node) : Stored toJson ofJson? node := by
  have state := NodeState.stored node.state
  have own : entries? (.exact ["id", "state"]) node.toJson = some _ :=
    entries?_own (by simp) (by simp [Layout.exact])
  constructor
  · refine .record ?_
    simp [state.integral, Integral.string]
  · rw [ofJson?, own]
    simp [required?, List.lookup_cons, state.back]

theorem UpdateStatus.stored (status : UpdateStatus) : Stored toJson ofJson? status := by
  have state := RolloutState.stored status.state
  have own : entries? (.exact ["state", "message"]) status.toJson = some _ :=
    entries?_own (by simp) (by simp [Layout.exact])
  constructor
  · refine .record ?_
    simp [state.integral, Integral.string]
  · rw [ofJson?, own]
    simp [required?, List.lookup_cons, state.back]

/-- A number of replicas is stored two objects deep; the other modes are stored as their names. -/
theorem ServiceMode.stored {mode : ServiceMode}
    (small : ∀ replicas, mode = .replicated (some replicas) → replicas < wordLimit) :
    Stored toJson ofJson? mode := by
  cases mode with
  | global => exact ⟨.string _, rfl⟩
  | job => exact ⟨.string _, rfl⟩
  | replicated replicas =>
    have number : Stored (nullable natural) (nullable? (natural? wordLimit)) replicas := by
      refine stored_nullable fun n given => ⟨stored_natural (small n ?_), rfl⟩
      rw [given]
    have own : entries? (.exact ["replicas"]) (.record [("replicas", nullable natural replicas)]) =
        some _ := entries?_own (by simp) (by simp [Layout.exact])
    constructor
    · refine .record ?_
      simpa using Integral.record (by simpa using number.integral)
    · change replicatedOfJson? (.record [("replicas", nullable natural replicas)]) = _
      rw [replicatedOfJson?, own]
      simp [default?, number.back]

/-- A duration is stored, whatever its length. -/
theorem Duration.stored (d : Duration) : Stored toJson ofJson? d := by
  have whole : d.seconds < wordLimit := by
    apply Nat.div_lt_of_lt_mul
    rw [Nat.mul_comm]
    exact d.nanos_lt
  have part : d.subsecondNanos < Nat.pow 2 32 :=
    Nat.lt_trans (Nat.mod_lt _ (by decide)) (by decide : 1000000000 < Nat.pow 2 32)
  have seconds := stored_natural whole
  have nanos := stored_natural part
  have own : entries? (.exact ["secs", "nanos"]) d.toJson = some _ :=
    entries?_own (by simp) (by simp [Layout.exact])
  constructor
  · refine .record ?_
    simp [seconds.integral, nanos.integral]
  · have sum : d.seconds * 1000000000 + d.subsecondNanos = d.nanos := Nat.div_add_mod' _ _
    calc ofJson? d.toJson
        = (natural? wordLimit (natural d.seconds)).bind fun seconds =>
            (natural? (Nat.pow 2 32) (natural d.subsecondNanos)).bind fun nanos =>
              ofNanos? (seconds * 1000000000 + nanos) := by
          rw [ofJson?, own]
          rfl
      _ = ofNanos? (d.seconds * 1000000000 + d.subsecondNanos) := by
          rw [seconds.back, Option.bind_some, nanos.back, Option.bind_some]
      _ = some d := by
          rw [sum]
          exact dif_pos d.nanos_lt

/-- A service is stored, if its number of replicas fits. -/
theorem Service.stored {service : Service} (sound : service.Sound) :
    Stored toJson ofJson? service := by
  have mode := ServiceMode.stored sound.replicas
  have status : Stored (nullable UpdateStatus.toJson) (nullable? UpdateStatus.ofJson?)
      service.updateStatus := stored_nullable fun status _ => ⟨status.stored, rfl⟩
  have period : Stored (nullable Duration.toJson) (nullable? Duration.ofJson?)
      service.stopGracePeriod := stored_nullable fun period _ => ⟨period.stored, rfl⟩
  have own : entries? layout service.toJson = some _ :=
    entries?_own (by simp) (by simp [layout, Layout.exact])
  constructor
  · refine .record ?_
    simp [mode.integral, status.integral, period.integral, Integral.string]
  · rw [ofJson?, own]
    simp [required?, default?, List.lookup_cons, mode.back, status.back, period.back]

theorem TaskFilter.stored (filter : TaskFilter) : Stored toJson ofJson? filter := by
  have desired : Stored (nullable TaskState.toJson) (nullable? TaskState.ofJson?) filter.desired :=
    stored_nullable fun state _ => ⟨state.stored, rfl⟩
  have own : entries? (.exact ["service_id", "desired_state"]) filter.toJson = some _ :=
    entries?_own (by simp) (by simp [Layout.exact])
  constructor
  · refine .record ?_
    simp [desired.integral, Integral.string]
  · rw [ofJson?, own]
    simp [required?, default?, List.lookup_cons, desired.back]

theorem RemoveOptions.stored (options : RemoveOptions) : Stored toJson ofJson? options := by
  have own : entries? (.exact ["remove_volumes", "force"]) options.toJson = some _ :=
    entries?_own (by simp) (by simp [Layout.exact])
  constructor
  · refine .record ?_
    simp [Integral.bool]
  · rw [ofJson?, own]
    simp [required?, List.lookup_cons, bool?]

end ReplicaWatch
