import ReplicaWatch.Proofs.Cluster.Storing
import ReplicaWatch.Proofs.Duration.RoundTrip
import ReplicaWatch.Settings.Form

/-! # Settings that are stored

Settings are read onto the usual ones, field by field. All fields stand in their stored form, so
that nothing of the usual ones is left, and each length of time is read back from its canonical text
(`Duration.spells_write`). With the records of a cluster these are all records that have a stored
form, and all of them are read back from its text (`Json.records_kept`).
-/

namespace ReplicaWatch

open Json

/-- A duration is read back from the string that it is stored as. -/
theorem Duration.ofSetting_write (d : Duration) : ofSetting (.string d.write) = .ok d := by
  have read : Duration.read d.write = .ok d := by
    rw [read_of_spells (spells_write d), ofNanos?_nanos]
    rfl
  simp [ofSetting, read]

/-- A table is read by taking its fields one after another. -/
theorem Json.overlay_record {α : Type} {names : List String} {fields : List (String × Json)}
    {field : α → String → Json → Except DocumentFault α} (once : (fields.map Prod.fst).Nodup)
    (own : ∀ field ∈ fields, field.1 ∈ names) (surplus : Bool) (usual : α) :
    (record fields).overlay names surplus field usual =
      fields.foldlM (fun record entry => field record entry.1 entry.2) usual := by
  rw [overlay, entries?_own once own]

/-- Each field of a stored wait is set again. -/
theorem ConvergenceConfig.ofJson_toJson (surplus : Bool) (config : ConvergenceConfig) :
    ofJson surplus config.toJson = .ok config := by
  rw [ofJson, toJson, overlay_record (by simp) (by simp [fieldNames])]
  simp only [List.foldlM_cons, List.foldlM_nil, setField, Duration.ofSetting_write]
  rfl

theorem DaemonConfig.ofJson_toJson (surplus : Bool) (config : DaemonConfig) :
    ofJson surplus config.toJson = .ok config := by
  rw [ofJson, toJson, overlay_record (by simp) (by simp [fieldNames])]
  simp only [List.foldlM_cons, List.foldlM_nil, setField, Duration.ofSetting_write]
  obtain ⟨host, version, timeout⟩ := config
  cases version <;> rfl

/-- Both tables of stored settings are read back. -/
theorem Settings.ofJson_toJson (surplus : Bool) (settings : Settings) :
    ofJson surplus settings.toJson = .ok settings := by
  rw [ofJson, toJson, overlay_record (by simp) (by simp [fieldNames])]
  simp only [List.foldlM_cons, List.foldlM_nil, setField, ConvergenceConfig.ofJson_toJson,
    DaemonConfig.ofJson_toJson]
  rfl

/-- A stored wait has only numbers that JSON keeps. -/
theorem ConvergenceConfig.integral_toJson (config : ConvergenceConfig) :
    Integral config.toJson := by
  refine .record ?_
  simp [Integral.string]

theorem DaemonConfig.integral_toJson (config : DaemonConfig) :
    Integral config.toJson := by
  have version : Integral (nullable .string config.apiVersion) := .nullable .string _
  refine .record ?_
  simp [version, Integral.string]

theorem Settings.integral_toJson (settings : Settings) : Integral settings.toJson := by
  refine .record ?_
  simp [settings.convergence.integral_toJson, settings.daemon.integral_toJson]

namespace Json

/-- Reading that may fail for a reason is reading. -/
theorem kept_of_ofJson {α : Type} {form : α → Json} {read : Json → Except DocumentFault α} {a : α}
    (integral : Integral (form a)) (back : read (form a) = .ok a) :
    Kept form (fun value => (read value).toOption) a :=
  Stored.kept ⟨integral, congrArg Except.toOption back⟩

/-- **Records are kept.** Every record is read back from the text of its stored form: all nodes,
filters, options, configurations and settings, and all tasks and services whose numbers fit into 64
bits, if the states of the tasks are normal, as all are that are read. -/
theorem records_kept :
    (∀ task : Task, task.Sound → Kept Task.toJson Task.ofJson? task) ∧
      (∀ node : Node, Kept Node.toJson Node.ofJson? node) ∧
      (∀ service : Service, service.Sound → Kept Service.toJson Service.ofJson? service) ∧
      (∀ filter : TaskFilter, Kept TaskFilter.toJson TaskFilter.ofJson? filter) ∧
      (∀ options : RemoveOptions, Kept RemoveOptions.toJson RemoveOptions.ofJson? options) ∧
      (∀ config : ConvergenceConfig, Kept ConvergenceConfig.toJson
        (fun value => (ConvergenceConfig.ofJson false value).toOption) config) ∧
      (∀ config : DaemonConfig, Kept DaemonConfig.toJson
        (fun value => (DaemonConfig.ofJson false value).toOption) config) ∧
      (∀ settings : Settings, Kept Settings.toJson
        (fun value => (Settings.ofJson false value).toOption) settings) ∧
      ∀ value reported, ReportedState.ofJson? value = some reported → reported.Normal :=
  ⟨fun _ sound => (Task.stored sound).kept,
    fun node => node.stored.kept,
    fun _ sound => (Service.stored sound).kept,
    fun filter => filter.stored.kept,
    fun options => options.stored.kept,
    fun config => kept_of_ofJson config.integral_toJson (config.ofJson_toJson false),
    fun config => kept_of_ofJson config.integral_toJson (config.ofJson_toJson false),
    fun settings => kept_of_ofJson settings.integral_toJson (settings.ofJson_toJson false),
    fun _ _ => ReportedState.normal_of_ofJson?⟩

/-- Records at the limits of their types are kept, with texts that have to be escaped. -/
theorem records_kept_largest :
    let task : Task := ⟨"a\n", "\"web\"", wordLimit - 1, "", .known .running, .unknown "orphaned",
      some "", "\\"⟩
    let service : Service := ⟨"s", "web", .replicated (some (wordLimit - 1)),
      some ⟨.rollbackPaused, ""⟩, some (.saturated Duration.limit)⟩
    (task.Sound ∧ Kept Task.toJson Task.ofJson? task) ∧
      (service.Sound ∧ Kept Service.toJson Service.ofJson? service) ∧
      ReportedState.Normal (.unknown "orphaned") := by
  intro task service
  obtain ⟨tasks, -, services, -, -, -, -, -, states⟩ := records_kept
  have unheard : ReportedState.Normal (.unknown "orphaned") := states (.string "orphaned") _ rfl
  have largest : wordLimit - 1 < wordLimit := by decide
  have sound : task.Sound := ⟨largest, trivial, unheard⟩
  have bounded : service.Sound := by
    refine ⟨fun replicas same => ?_⟩
    obtain rfl : wordLimit - 1 = replicas := by simpa [service] using same
    exact largest
  exact ⟨⟨sound, tasks task sound⟩, ⟨bounded, services service bounded⟩, unheard⟩

end Json

end ReplicaWatch
