import ReplicaWatch.Proofs.Daemon.BaseUrl
import ReplicaWatch.Proofs.Json.RoundTrip
import ReplicaWatch.Proofs.Text.FormReading

/-! # The filters of a listing

Which tasks are listed is chosen by one parameter, a JSON object that is form-encoded behind the
query. Reading the form gives back the text of the object (`Text.formDecode_formEncode`), and
reading that text gives back the object (`Json.read?_write`), whatever the id of the service is made
of.
-/

namespace ReplicaWatch.Request

/-- What the filters of a listing are: the service, and the desired state where one is given, each
as the only item of an array. -/
def Filters (filter : TaskFilter) (name : Option String) (content : Json) : Prop :=
  name = some "service" ∧ content = .array [.string filter.service] ∨
    ∃ state, filter.desired = some state ∧ name = some "desired-state" ∧
      content = .array [.string state.name]

/-- The filters are a JSON object of the names and contents that they have to be. -/
theorem exists_filters (filter : TaskFilter) :
    ∃ fields, filters filter = .object fields ∧ (fields.map Prod.fst).Nodup ∧
      ∀ name content, (name, content) ∈ fields ↔ Filters filter name content := by
  obtain ⟨service, desired⟩ := filter
  cases desired with
  | none =>
    refine ⟨[(some "service", .array [.string service])], rfl, List.nodup_singleton _, ?_⟩
    simp [Filters]
  | some state =>
    refine ⟨[(some "desired-state", .array [.string state.name]),
      (some "service", .array [.string service])], rfl, by simp, ?_⟩
    simp [Filters, or_comm]

theorem integral_filters (filter : TaskFilter) : Json.Integral (filters filter) := by
  have single (s : String) : Json.Integral (.array [.string s]) :=
    .array _ (List.forall_mem_singleton.mpr (.string s))
  refine .record fun field member => ?_
  obtain member | member := List.mem_append.mp member
  · split at member
    · cases member
    · obtain rfl := List.mem_singleton.mp member
      exact single _
  · obtain rfl := List.mem_singleton.mp member
    exact single _

variable {toAscii : Url.DomainReader} {base : Url} {parts : List String}

/-- **The filters of a listing.** From any base with segments in its path, the request of a listing
has a query in which a form's reader finds one value, the filters. A JSON reader finds in it the
service's id and, if one is given, the name of the desired state, each as the only item of an array,
and nothing else. -/
theorem listTasks_filters (path : base.path = .segments parts) (filter : TaskFilter) :
    ∃ request query value fields,
      ofCall base (.listTasks filter) toAscii = .ok request ∧
        request.url.query = some query ∧
        Text.formDecode query.toList = some [("filters", value)] ∧
        Json.read? value = some (.object fields) ∧
        (fields.map Prod.fst).Nodup ∧
        ∀ name content, (name, content) ∈ fields ↔ Filters filter name content := by
  have unasked : (Url.Tail.split (Url.cleaned "tasks".toList)).query = none := by decide
  obtain ⟨request, sent, query⟩ := @query_of_ofCall toAscii base parts path (.listTasks filter) unasked
  have query : request.url.query =
      some (String.ofList (Text.formEncode [("filters", (filters filter).write)])) := query
  obtain ⟨fields, object, distinct, each⟩ := exists_filters filter
  have form : Text.formDecode
      (String.ofList (Text.formEncode [("filters", (filters filter).write)])).toList =
        some [("filters", (filters filter).write)] := by
    rw [String.toList_ofList, Text.formDecode_formEncode]
  have text := Json.read?_write (integral_filters filter)
  rw [object] at text form query
  exact ⟨request, _, _, fields, sent, query, form, text, distinct, each⟩

theorem listTasks_filters_quoted :
    let base : Url := ⟨"http", some ⟨"", .ipv4 0x7F000001, some 2375⟩, .segments [""], none, none⟩
    let filter : TaskFilter := ⟨"a&b=\"%41+\\ü\n", some .running⟩
    ∃ request query value fields,
      ofCall base (.listTasks filter) = .ok request ∧
        request.url.query = some query ∧
        Text.formDecode query.toList = some [("filters", value)] ∧
        Json.read? value = some (.object fields) ∧
        (some "service", .array [.string "a&b=\"%41+\\ü\n"]) ∈ fields ∧
        (some "desired-state", .array [.string "running"]) ∈ fields := by
  obtain ⟨request, query, value, fields, sent, asked, form, text, -, each⟩ :=
    @listTasks_filters Url.Domain.canonical?
      ⟨"http", some ⟨"", .ipv4 0x7F000001, some 2375⟩, .segments [""], none, none⟩ [""] rfl
      ⟨"a&b=\"%41+\\ü\n", some .running⟩
  exact ⟨request, query, value, fields, sent, asked, form, text,
    (each _ _).mpr (.inl ⟨rfl, rfl⟩), (each _ _).mpr (.inr ⟨.running, rfl, rfl, rfl⟩)⟩

end ReplicaWatch.Request
