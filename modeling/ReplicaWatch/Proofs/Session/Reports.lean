import ReplicaWatch.Convergence.Session
import ReplicaWatch.Proofs.Slots.Reordering

/-! # The reports of a session

A session looks at a service again and again and reports on each look (`Session.reports`). What it
reports, the places of the slots in it included, and how it stands afterwards does not depend on
the order in which tasks and nodes were listed (`Session.reports_reordered`): of the listings a
session only sees what they resolve to (`Session.observe_congr`), and so does what it remembers.
-/

namespace ReplicaWatch

/-- One look at a service. -/
structure Look where
  snapshot : Snapshot
  /-- Whether the update of the service is being rolled back. -/
  rollback : Bool

/-- What a look resolves to. -/
def Look.slots (look : Look) : SlotMap :=
  .resolve look.snapshot.tasks (.ofNodes look.snapshot.nodes)

/-- The same look, but for the order in which tasks and nodes are listed. -/
structure Look.Reorders (look other : Look) : Prop where
  service : look.snapshot.service = other.snapshot.service
  tasks : look.snapshot.tasks.Perm other.snapshot.tasks
  nodes : look.snapshot.nodes.Perm other.snapshot.nodes
  rollback : look.rollback = other.rollback

/-- **A look in another order.** It resolves to the same when its tasks can be told apart. -/
theorem Look.slots_eq_of_reorders {look other : Look} (reorders : look.Reorders other)
    (distinguished : Task.Distinguished look.snapshot.tasks) : look.slots = other.slots :=
  SlotMap.resolve_eq_of_perm reorders.tasks (ActiveNodes.admits_ofNodes_of_perm reorders.nodes)
    distinguished

namespace Session

/-- What a session reports on one look after another, each report with the session behind it. -/
def reports (session : Session) : List Look → List (Except ConvergenceError Progress × Session)
  | [] => []
  | look :: looks =>
    session.observe look.snapshot look.rollback ::
      (session.observe look.snapshot look.rollback).2.reports looks

/-- Of the listings a session only sees what they resolve to. -/
theorem observe_congr (session : Session) {look other : Look}
    (service : look.snapshot.service = other.snapshot.service) (slots : look.slots = other.slots)
    (rollback : look.rollback = other.rollback) :
    session.observe look.snapshot look.rollback =
      session.observe other.snapshot other.rollback := by
  unfold Look.slots at slots
  unfold observe
  rw [service, slots, rollback]

/-- **The order of listings never matters.** Looks at a service that differ only in the order in
which tasks and nodes are listed, where the tasks of each can be told apart, resolve to the same
slots one by one, and a session reports the same on them one by one, progress or error, and stands
the same behind each. -/
theorem reports_reordered (session : Session) {looks others : List Look}
    (reorders : List.Forall₂ Look.Reorders looks others)
    (distinguished : ∀ look ∈ looks, Task.Distinguished look.snapshot.tasks) :
    looks.map Look.slots = others.map Look.slots ∧
      session.reports looks = session.reports others := by
  induction reorders generalizing session with
  | nil => exact ⟨rfl, rfl⟩
  | @cons look other looks others first _ ih =>
    obtain ⟨here, later⟩ := List.forall_mem_cons.mp distinguished
    have slots := Look.slots_eq_of_reorders first here
    have observed := session.observe_congr first.service slots first.rollback
    obtain ⟨resolved, reported⟩ := ih (session.observe look.snapshot look.rollback).2 later
    constructor
    · rw [List.map_cons, List.map_cons, slots, resolved]
    · rw [reports, reports, reported, observed]

/-- Two looks at a service of two replicas: in the first a task and its successor compete for a
slot, in the second another slot is seen, which has a lower number. -/
private def restarted (turn : ∀ {α : Type}, List α → List α) : List Look :=
  [⟨⟨⟨"svc", "svc", .replicated (some 2), none, none⟩,
      turn [⟨"b", "svc", 7, "n1", .known .running, .known .starting, none, ""⟩,
        ⟨"a", "svc", 7, "n1", .known .running, .known .starting, none, ""⟩,
        ⟨"c", "svc", 7, "n2", .known .shutdown, .known .running, none, ""⟩],
      turn [⟨"n1", .ready⟩, ⟨"n2", .down⟩]⟩, false⟩,
    ⟨⟨⟨"svc", "svc", .replicated (some 2), none, none⟩,
      turn [⟨"a", "svc", 7, "n1", .known .running, .known .running, none, ""⟩,
        ⟨"d", "svc", 2, "n1", .known .running, .known .running, none, ""⟩],
      turn [⟨"n1", .ready⟩, ⟨"n2", .down⟩]⟩, true⟩]

theorem reports_reordered_reversed :
    List.Forall₂ Look.Reorders (restarted id) (restarted List.reverse) ∧
      (∀ look ∈ restarted id, Task.Distinguished look.snapshot.tasks) ∧
      (restarted id).map Look.slots = (restarted List.reverse).map Look.slots ∧
      (start "svc").reports (restarted id) = (start "svc").reports (restarted List.reverse) := by
  have distinguished : ∀ look ∈ restarted id, Task.Distinguished look.snapshot.tasks := by decide
  have reorders : List.Forall₂ Look.Reorders (restarted id) (restarted List.reverse) :=
    .cons ⟨rfl, (List.reverse_perm _).symm, (List.reverse_perm _).symm, rfl⟩
      (.cons ⟨rfl, (List.reverse_perm _).symm, (List.reverse_perm _).symm, rfl⟩ .nil)
  exact ⟨reorders, distinguished, reports_reordered (start "svc") reorders distinguished⟩

end Session

end ReplicaWatch
