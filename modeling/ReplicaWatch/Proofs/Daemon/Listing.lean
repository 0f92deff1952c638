import ReplicaWatch.Convergence.Slots
import ReplicaWatch.Daemon.Client
import ReplicaWatch.Proofs.Json.Records
import ReplicaWatch.Proofs.Json.RoundTrip

/-! # Odd tasks in a listing

An item of a listing is read as a task whenever it has an id and the fields that are known hold what
the daemon puts there (`Payload.IsTask`, `Payload.task?_shows`). Neither fields that are not known
nor states that nobody has heard of make it fail. A task in such a state never holds a slot, and
leaving it out of the listing leaves all slots as they are (`SlotMap.resolve_filter_isRanked`).
-/

namespace ReplicaWatch

/-! ## Objects -/

namespace Json

/-- What stands under a name in an object. -/
def under? (value : Json) (name : String) : Option Json :=
  match value with
  | .object fields => fields.lookup (some name)
  | _ => none

/-- The text under a name in an object; empty where there is none. -/
def textUnder (value : Json) (name : String) : String :=
  ((value.under? name).bind string?).getD ""

/-- A value is an object in which no name stands twice. -/
def IsObject (value : Json) : Prop :=
  ∃ fields : List (String × Json), value = .record fields ∧ (fields.map Prod.fst).Nodup

/-- What stands under a name, if anything does, has a property. -/
def Under (value : Json) (name : String) (Has : Json → Prop) : Prop :=
  ∀ content, value.under? name = some content → Has content

/-- A value is a string. -/
def IsString (value : Json) : Prop := ∃ s, value = .string s

/-- A value is a natural number of 64 bits. -/
def IsWord (value : Json) : Prop := ∃ n < wordLimit, value = .natural n

variable {value : Json} {entries : List (String × Json)} {name : String}

/-- The names that a reader knows are found in an object as they stand there. -/
theorem IsObject.exists_entries (object : value.IsObject) (names : List String)
    (required : Nat) :
    ∃ entries, entries? (.open names required) value = some entries ∧
      ∀ name ∈ names, entries.lookup name = value.under? name := by
  obtain ⟨fields, rfl, once⟩ := object
  have found := entries?_record once (.open names required)
  exact ⟨_, found, fun name member => lookup_knownFields? found member⟩

/-- A field that is left out or can be read is no obstacle. -/
theorem default?_eq {α : Type} {missing : α} {read : Json → Option α}
    (found : entries.lookup name = value.under? name)
    (typed : value.Under name fun content => (read content).isSome = true) :
    default? entries name missing read = some (((value.under? name).bind read).getD missing) := by
  rw [default?, found]
  cases under : value.under? name with
  | none => rfl
  | some content =>
    obtain ⟨a, read⟩ := Option.isSome_iff_exists.mp (typed content under)
    simp [read]

/-- A string that may be left out is read as that string, or as the empty one. -/
theorem default?_text (found : entries.lookup name = value.under? name)
    (typed : value.Under name IsString) :
    default? entries name "" string? = some (value.textUnder name) := by
  refine default?_eq found fun content under => ?_
  obtain ⟨s, rfl⟩ := typed content under
  rfl

end Json

/-! ## Tasks -/

namespace Payload

/-- The status of a container as the daemon writes it. -/
structure IsContainer (value : Json) : Prop where
  object : value.IsObject
  id : value.Under "ContainerID" Json.IsString

/-- The status of a task as the daemon writes it. Any of its fields may be left out. -/
structure IsStatus (value : Json) : Prop where
  object : value.IsObject
  state : value.Under "State" Json.IsString
  message : value.Under "Message" Json.IsString
  container : value.Under "ContainerStatus" fun content => content = .null ∨ IsContainer content

/-- A task as the daemon writes it. It has an id, and any other of its fields may be left out. -/
structure IsTask (value : Json) : Prop where
  object : value.IsObject
  id : ∃ id, value.under? "ID" = some (.string id)
  service : value.Under "ServiceID" Json.IsString
  slot : value.Under "Slot" Json.IsWord
  node : value.Under "NodeID" Json.IsString
  desired : value.Under "DesiredState" Json.IsString
  status : value.Under "Status" IsStatus

/-- The status of a task, which has nothing in it where it is left out. -/
def statusUnder (value : Json) : Json := (value.under? "Status").getD .null

/-- The id of the container in a status; nothing where there is no container. -/
def containerUnder (status : Json) : Option String :=
  ((status.under? "ContainerStatus").filter fun content => !content.isNull).map
    (·.textUnder "ContainerID")

/-- A task is what an item of a listing says, with the texts of both states as they stand there. -/
structure Shows (value : Json) (task : Task) : Prop where
  id : value.under? "ID" = some (.string task.id)
  service : task.service = value.textUnder "ServiceID"
  slot : task.slot = ((value.under? "Slot").bind (Json.natural? wordLimit)).getD 0
  node : task.node = value.textUnder "NodeID"
  desired : task.desired.text = value.textUnder "DesiredState"
  observed : task.observed.text = (statusUnder value).textUnder "State"
  message : task.message = (statusUnder value).textUnder "Message"
  container : task.containerId =
    (containerUnder (statusUnder value)).filter fun id => !(Text.trim id).isEmpty
  desired_normal : task.desired.Normal
  observed_normal : task.observed.Normal

variable {value : Json}

/-- A container status is read as the id that it gives. -/
theorem container?_eq (container : IsContainer value) :
    container? value = some (value.textUnder "ContainerID") := by
  obtain ⟨entries, found, under⟩ := container.object.exists_entries ["ContainerID"] 0
  have id := Json.default?_text (under "ContainerID" (by simp)) container.id
  simp only [container?, found, id, Option.bind_eq_bind, Option.bind_some]

/-- A status is read as its three members. -/
theorem taskStatus?_eq (status : IsStatus value) :
    taskStatus? value =
      some ⟨value.textUnder "State", value.textUnder "Message", containerUnder value⟩ := by
  obtain ⟨entries, found, under⟩ :=
    status.object.exists_entries ["State", "Message", "ContainerStatus"] 0
  have state := Json.default?_text (under "State" (by simp)) status.state
  have message := Json.default?_text (under "Message" (by simp)) status.message
  have container : Json.default? entries "ContainerStatus" none (Json.nullable? container?) =
      some (containerUnder value) := by
    rw [Json.default?, under "ContainerStatus" (by simp), containerUnder]
    cases given : value.under? "ContainerStatus" with
    | none => rfl
    | some content =>
      obtain rfl | container := status.container content given
      · rfl
      · have read := container?_eq container
        obtain ⟨fields, rfl, -⟩ := container.object
        calc Json.nullable? container? (.record fields)
            = (container? (.record fields)).map some := rfl
          _ = some (some ((Json.record fields).textUnder "ContainerID")) := by rw [read]; rfl
  simp only [taskStatus?, found, state, message, container, Option.bind_eq_bind, Option.bind_some]
  rfl

/-- **Reading an odd task.** A task as the daemon writes it is read, whatever its states are and
whatever else stands in it. -/
theorem task?_shows (typed : IsTask value) :
    ∃ task, task? value = some task ∧ Shows value task := by
  obtain ⟨entries, found, under⟩ := typed.object.exists_entries
    ["ID", "ServiceID", "Slot", "NodeID", "DesiredState", "Status"] 1
  obtain ⟨id, named⟩ := typed.id
  have identified : Json.required? entries "ID" Json.string? = some id := by
    rw [Json.required?, under "ID" (by simp), named]
    rfl
  have service := Json.default?_text (under "ServiceID" (by simp)) typed.service
  have slot : Json.default? entries "Slot" 0 (Json.natural? wordLimit) =
      some (((value.under? "Slot").bind (Json.natural? wordLimit)).getD 0) := by
    refine Json.default?_eq (under "Slot" (by simp)) fun content given => ?_
    obtain ⟨n, small, rfl⟩ := typed.slot content given
    rw [Json.natural?_natural small]
    rfl
  have node := Json.default?_text (under "NodeID" (by simp)) typed.node
  have desired :=
    Json.default?_text (under "DesiredState" (by simp)) typed.desired
  have status : Json.default? entries "Status" ⟨"", "", none⟩ taskStatus? =
      some ⟨(statusUnder value).textUnder "State", (statusUnder value).textUnder "Message",
        containerUnder (statusUnder value)⟩ := by
    rw [Json.default?, under "Status" (by simp), statusUnder]
    cases given : value.under? "Status" with
    | none => rfl
    | some content => exact taskStatus?_eq (typed.status content given)
  refine ⟨_, by
    simp only [task?, found, identified, service, slot, node, desired, status, Option.bind_eq_bind,
      Option.bind_some]
    rfl, ?_⟩
  exact {
    id := named
    service := rfl
    slot := rfl
    node := rfl
    desired := ReportedState.text_ofText _
    observed := ReportedState.text_ofText _
    message := rfl
    container := rfl
    desired_normal := ReportedState.normal_ofText _
    observed_normal := ReportedState.normal_ofText _ }

/-- A listing of such tasks has one task for each item, in the same order. -/
theorem tasks_shown {items : List Json} (each : ∀ item ∈ items, IsTask item) :
    ∃ tasks, items.mapM task? = some tasks ∧ List.Forall₂ Shows items tasks := by
  induction items with
  | nil => exact ⟨[], rfl, .nil⟩
  | cons item items ih =>
    obtain ⟨own, each⟩ := List.forall_mem_cons.mp each
    obtain ⟨task, read, shows⟩ := task?_shows own
    obtain ⟨tasks, others, shown⟩ := ih each
    exact ⟨task :: tasks, by rw [List.mapM_cons, read, others]; rfl, .cons shows shown⟩

end Payload

/-! ## Slots -/

/-- Whether a text is the name of a state of the lifecycle. -/
def TaskState.isName (text : String) : Bool := (lifecycle.map name).contains text

/-- Whether both states of a task are reported by names of the lifecycle. -/
def Task.inLifecycle (task : Task) : Bool :=
  TaskState.isName task.desired.text && TaskState.isName task.observed.text

/-- A state has a rank just when its text is the name of a state. -/
theorem ReportedState.isSome_rank? {reported : ReportedState} (normal : reported.Normal) :
    reported.rank?.isSome = TaskState.isName reported.text := by
  have named : TaskState.isName reported.text = (TaskState.ofName? reported.text).isSome := by
    rw [Bool.eq_iff_iff, TaskState.isName, List.contains_iff_mem, TaskState.ofName?,
      List.find?_isSome]
    simp
  rw [named]
  cases reported with
  | known state =>
    rw [text, TaskState.ofName?_name]
    rfl
  | unknown text =>
    have missing : TaskState.ofName? text = none := normal
    rw [ReportedState.text, missing]
    rfl

/-- The tasks that have a rank are those both of whose states are named in the lifecycle. -/
theorem Payload.filter_isRanked {items : List Json} {tasks : List Task}
    (shown : List.Forall₂ Shows items tasks) :
    tasks.filter Task.isRanked = tasks.filter Task.inLifecycle := by
  induction shown with
  | nil => rfl
  | cons shows _ ih =>
    rw [List.filter_cons, List.filter_cons, ih, Task.isRanked, Task.inLifecycle,
      ReportedState.isSome_rank? shows.desired_normal,
      ReportedState.isSome_rank? shows.observed_normal]

/-- What does not compete can be left out. -/
theorem SlotMap.resolve_filter_isRanked (tasks : List Task) (active : ActiveNodes) :
    resolve (tasks.filter Task.isRanked) active = resolve tasks active := by
  have candidates : (tasks.filter Task.isRanked).filter (Task.isCandidate active) =
      tasks.filter (Task.isCandidate active) := by
    rw [List.filter_filter]
    apply List.filter_congr
    intro task _
    cases ranked : task.isRanked <;> simp [Task.isCandidate, ranked]
  rw [resolve, resolve, candidates]

namespace Reply

/-- **A listing with odd tasks.** If each item of a listing is a task as the daemon writes it, with
any states and any other fields, the listing is answered by one task for each item, in order. No
slot is resolved differently without the tasks that are reported outside the lifecycle. -/
theorem answer_listTasks {reply : Reply} {items : List Json} (success : reply.isSuccess = true)
    (listed : Json.read? reply.body = some (.array items))
    (each : ∀ item ∈ items, Payload.IsTask item) (filter : TaskFilter) :
    ∃ tasks, reply.answer (.listTasks filter) = .ok tasks ∧
      List.Forall₂ Payload.Shows items tasks ∧
      ∀ active, SlotMap.resolve tasks active =
        SlotMap.resolve (tasks.filter Task.inLifecycle) active := by
  obtain ⟨tasks, read, shown⟩ := Payload.tasks_shown each
  refine ⟨tasks, ?_, shown, fun active => ?_⟩
  · rw [answer, if_pos success, Reply.success, contents, listed, Option.bind_some, Payload.list?,
      read]
  · rw [← Payload.filter_isRanked shown, SlotMap.resolve_filter_isRanked]

/-- An odd task and one that runs, of one slot. -/
private def removing : Json :=
  .record [("ID", .string "a"), ("Slot", .natural 1), ("Labels", .null),
    ("DesiredState", .string "remove")]

private def serving : Json :=
  .record [("ID", .string "b"), ("Slot", .natural 1), ("DesiredState", .string "running"),
    ("Status", .record [("State", .string "running")])]

private theorem isTask_removing : Payload.IsTask removing where
  object := ⟨_, rfl, by decide⟩
  id := ⟨"a", rfl⟩
  service := nofun
  slot := fun content given => ⟨1, by decide, (Option.some.inj given).symm⟩
  node := nofun
  desired := fun content given => ⟨"remove", (Option.some.inj given).symm⟩
  status := nofun

private theorem isTask_serving : Payload.IsTask serving where
  object := ⟨_, rfl, by decide⟩
  id := ⟨"b", rfl⟩
  service := nofun
  slot := fun content given => ⟨1, by decide, (Option.some.inj given).symm⟩
  node := nofun
  desired := fun content given => ⟨"running", (Option.some.inj given).symm⟩
  status := by
    intro content given
    obtain rfl := Option.some.inj given
    exact {
      object := ⟨_, rfl, by decide⟩
      state := fun content given => ⟨"running", (Option.some.inj given).symm⟩
      message := nofun
      container := nofun }

/-- An odd task is listed beside one of the same slot, and the slot is held by the other. -/
theorem answer_listTasks_removed :
    ∃ odd plain, answer ⟨200, (Json.array [removing, serving]).write⟩ (.listTasks ⟨"web", none⟩) =
        .ok [odd, plain] ∧
      odd.id = "a" ∧ odd.slot = 1 ∧ odd.desired.text = "remove" ∧
      plain.id = "b" ∧ plain.slot = 1 ∧
      (SlotMap.resolve [odd, plain] ⟨[]⟩).get? 1 = some plain := by
  have integral : Json.Integral (.array [removing, serving]) := by
    refine .array _ (List.forall_mem_cons.mpr ⟨.record ?_, List.forall_mem_singleton.mpr
      (.record ?_)⟩)
    · simp [Json.Integral.string, Json.Integral.natural, Json.Integral.null]
    · have status : Json.Integral (.record [("State", .string "running")]) :=
        .record (by simp [Json.Integral.string])
      simp [Json.Integral.string, Json.Integral.natural, status]
  have success : isSuccess ⟨200, (Json.array [removing, serving]).write⟩ = true := rfl
  obtain ⟨tasks, answered, shown, resolved⟩ := answer_listTasks success (Json.read?_write integral)
    (List.forall_mem_cons.mpr ⟨isTask_removing, List.forall_mem_singleton.mpr isTask_serving⟩)
    ⟨"web", none⟩
  obtain _ | ⟨first, _ | ⟨second, _ | _⟩⟩ := shown
  next odd plain =>
  have strange : odd.inLifecycle = false := by
    rw [Task.inLifecycle, first.desired]
    rfl
  have usual : plain.inLifecycle = true := by
    rw [Task.inLifecycle, second.desired, second.observed]
    rfl
  have candidate : plain.isCandidate ⟨[]⟩ = true := by
    rw [Task.isCandidate, Task.isRanked, ReportedState.isSome_rank? second.desired_normal,
      ReportedState.isSome_rank? second.observed_normal, ← Task.inLifecycle, usual,
      ActiveNodes.admits, second.node]
    rfl
  have holds : (SlotMap.resolve [plain] ⟨[]⟩).get? 1 = some plain := by
    rw [SlotMap.resolve, List.filter_cons_of_pos candidate]
    exact List.find?_cons_of_pos (by rw [second.slot]; rfl)
  refine ⟨odd, plain, answered, ?_, first.slot, first.desired, ?_, second.slot, ?_⟩
  · exact (Option.some.inj (congrArg Json.string? (Option.some.inj first.id))).symm
  · exact (Option.some.inj (congrArg Json.string? (Option.some.inj second.id))).symm
  · rw [resolved, List.filter_cons_of_neg (by simp [strange]), List.filter_cons_of_pos usual,
      List.filter_nil, holds]

end Reply

end ReplicaWatch
