import ReplicaWatch.Proofs.Session.Numbering
import ReplicaWatch.Proofs.Session.Reports

/-! # Places in the reports

A slot has a place in the reports of a session from the look on in which it is first resolved
(`Session.place?`). The places that are stored are the numbers from 1 on (`Session.Places`), which
each look keeps up (`Session.Notes.next`). A session that has not evaluated a look drops the places
that it has stored; it has none (`Session.Notes.known_eq`). Every report lists the slots that it
resolves in the order of their places (`Session.ReportsOn`). All of this holds whatever a session
is shown (`Session.places_assigned_once`).
-/

namespace ReplicaWatch

/-- The slots that a look resolves. -/
def Look.slotSet (look : Look) : Finset Nat := (look.slots.tasks.map Task.slot).toFinset

namespace Session

/-- What a session reports on a look. -/
def report (session : Session) (look : Look) : Except ConvergenceError Progress :=
  (session.observe look.snapshot look.rollback).1

/-- The session behind a look. -/
def next (session : Session) (look : Look) : Session :=
  (session.observe look.snapshot look.rollback).2

/-- The session behind one look after another. -/
def after (session : Session) : List Look → Session
  | [] => session
  | look :: looks => (session.next look).after looks

/-- The slots that are resolved in a look, if it has a report. -/
def resolved (session : Session) (look : Look) : Finset Nat :=
  match session.report look with
  | .ok _ => look.slotSet
  | .error _ => ∅

/-- The slots that are resolved in those looks that have a report. -/
def allResolved (session : Session) : List Look → Finset Nat
  | [] => ∅
  | look :: looks => session.resolved look ∪ (session.next look).allResolved looks

/-- The place of a slot in the reports, once it has one. -/
def place? (session : Session) (slot : Nat) : Option Nat := session.places.get? slot

/-- Just these slots have a place, and their places are the numbers from 1 on, one each. -/
structure Places (session : Session) (slots : Finset Nat) : Prop where
  placed : ∀ slot, (session.place? slot).isSome = true ↔ slot ∈ slots
  numbers : ∀ place, (∃ slot, session.place? slot = some place) ↔ 1 ≤ place ∧ place ≤ slots.card
  unshared : ∀ slot other place, session.place? slot = some place →
    session.place? other = some place → slot = other

/-- A report behind which a session stands lists the slots that a look resolves, each once and with
its place, in the order of the places. -/
structure ReportsOn (session : Session) (look : Look) (progress : Progress) : Prop where
  once : (progress.slots.map SlotLine.slot).Nodup
  slots : (progress.slots.map SlotLine.slot).toFinset = look.slotSet
  placed : ∀ line ∈ progress.slots, 0 < line.index ∧ session.place? line.slot = some line.index
  ascending : (progress.slots.map SlotLine.index).Pairwise (· < ·)

/-- What a look does to a session in which these slots have a place: the slots that are new take the
next places in ascending order. A look is only without a report when the service gives no number of
replicas, and then it does nothing. -/
structure Proceeds (session : Session) (slots : Finset Nat) (look : Look) : Prop where
  taken : ∀ progress, session.report look = .ok progress →
    ∀ slot ∈ look.slotSet \ slots,
      (session.next look).place? slot =
        some (slots.card + 1 + ((look.slotSet \ slots).filter (· < slot)).card)
  reports : ∀ progress, session.report look = .ok progress →
    (session.next look).ReportsOn look progress
  refused : ∀ error, session.report look = .error error →
    look.snapshot.service.replicas? = none ∧ error = .noReplicaCount session.service ∧
      session.next look = session

/-- What a look comes to that has a report. -/
structure Looked (session : Session) (look : Look) (progress : Progress) : Prop where
  wanted : look.snapshot.service.replicas? = some progress.desired
  running : progress.running = look.slots.countRunning
  initialized : (session.next look).initialized = true
  places : (session.next look).places =
    (look.slots.tasks.map Task.slot).foldl PlaceMap.note session.known
  slots : progress.slots = lines (session.next look).places look.slots
  done : (session.next look).done =
    (session.done && allRunning look.slots || progress.running == progress.desired)

/-- A history may be cut in two at any look. -/
theorem after_append (session : Session) (looks more : List Look) :
    session.after (looks ++ more) = (session.after looks).after more := by
  induction looks generalizing session with
  | nil => rfl
  | cons look looks ih => exact ih _

/-- A session has stored a place with each of these slots, numbered as they were seen, and with no
slot before the first observation that it evaluates. -/
structure Notes (session : Session) (slots : Finset Nat) : Prop where
  fresh : session.initialized = false → session.places = .empty
  numbered : session.places.Numbered
  slots : session.places.slots.toFinset = slots

namespace Notes

variable {session : Session} {slots : Finset Nat}

/-- What an uninitialized session drops is nothing. -/
theorem known_eq (notes : session.Notes slots) : session.known = session.places := by
  unfold known
  split
  · rfl
  · next uninitialized => rw [notes.fresh (Bool.eq_false_iff.mpr uninitialized)]

/-- A slot has an entry in the stored map just when it has been seen. -/
theorem mem_iff (notes : session.Notes slots) {slot : Nat} :
    slot ∈ session.places.slots ↔ slot ∈ slots := by
  rw [← notes.slots, List.mem_toFinset]

/-- As many places are stored as there are slots. -/
theorem size (notes : session.Notes slots) : session.places.size = slots.card := by
  rw [← notes.slots, List.toFinset_card_of_nodup notes.numbered.nodup, PlaceMap.slots,
    List.length_map, PlaceMap.size]

/-- The stored places are the numbers from 1 on, one for each slot. -/
theorem places (notes : session.Notes slots) : session.Places slots where
  placed := fun _ => PlaceMap.isSome_get?_iff.trans notes.mem_iff
  numbers := fun _ => by
    rw [← notes.size]
    exact notes.numbered.exists_get?_iff
  unshared := fun _ _ _ => notes.numbered.get?_injective

end Notes

/-- A report has one line for each task of the looked-at slots. -/
theorem lines_perm (places : PlaceMap) (slots : SlotMap) :
    (lines places slots).Perm (slots.tasks.map (lineOf places)) :=
  List.mergeSort_perm _ _

/-- Its lines are on the slots of those tasks. -/
theorem slots_lines_perm (places : PlaceMap) (slots : SlotMap) :
    ((lines places slots).map SlotLine.slot).Perm (slots.tasks.map Task.slot) := by
  have perm := (lines_perm places slots).map SlotLine.slot
  rw [List.map_map] at perm
  exact perm

/-- The lines are in the order of their indices. -/
theorem lines_ordered (places : PlaceMap) (slots : SlotMap) :
    (lines places slots).Pairwise fun a b => a.index ≤ b.index := by
  have sorted : (lines places slots).Pairwise fun a b => decide (a.index ≤ b.index) = true := by
    apply List.pairwise_mergeSort
    · intro a b c first second
      rw [decide_eq_true_eq] at first second ⊢
      exact Nat.le_trans first second
    · intro a b
      rw [Bool.or_eq_true, decide_eq_true_eq, decide_eq_true_eq]
      exact Nat.le_total _ _
  exact sorted.imp of_decide_eq_true

section Look

variable {session : Session} {slots : Finset Nat} {look : Look} {progress : Progress}
  {error : ConvergenceError}

/-- A look without a report is one at a service that gives no number of replicas, and leaves the
session alone. -/
theorem next_of_error (refused : session.report look = .error error) :
    look.snapshot.service.replicas? = none ∧ error = .noReplicaCount session.service ∧
      session.next look = session := by
  unfold report observe at refused
  unfold next observe
  split
  · next missing =>
    simp only [missing, Except.error.injEq] at refused
    exact ⟨missing, refused.symm, rfl⟩
  · next replicas => simp only [replicas, reduceCtorEq] at refused

/-- A look that has a report leaves all these traces in the next session. -/
theorem looked_of_ok (reported : session.report look = .ok progress) :
    session.Looked look progress := by
  unfold report observe at reported
  cases wanted : look.snapshot.service.replicas? with
  | none => simp only [wanted, reduceCtorEq] at reported
  | some replicas =>
    simp only [wanted, Except.ok.injEq] at reported
    subst reported
    constructor
    case wanted => exact wanted
    case running => rfl
    all_goals simp only [next, observe, wanted, Look.slots, Progress.isConverged]

theorem resolved_of_ok (reported : session.report look = .ok progress) :
    session.resolved look = look.slotSet := by
  rw [resolved, reported]

theorem resolved_of_error (refused : session.report look = .error error) :
    session.resolved look = ∅ := by
  rw [resolved, refused]

/-- The new slots of a look are those that no place was stored with. -/
theorem Notes.toFinset_new (notes : session.Notes slots) (look : Look) :
    ((look.slots.tasks.map Task.slot).filter fun slot =>
      decide (slot ∉ session.places.slots)).toFinset = look.slotSet \ slots := by
  ext slot
  simp only [List.mem_toFinset, List.mem_filter, decide_eq_true_eq, notes.mem_iff, Look.slotSet,
    Finset.mem_sdiff]

/-- A look that has a report sees its slots, with the places that are stored. -/
theorem Notes.places_next (notes : session.Notes slots)
    (reported : session.report look = .ok progress) :
    (session.next look).places =
      (look.slots.tasks.map Task.slot).foldl PlaceMap.note session.places := by
  rw [(looked_of_ok reported).places, notes.known_eq]

/-- **One look.** Behind a look a session has also noted the slots that are resolved in it. -/
theorem Notes.next (notes : session.Notes slots) (look : Look) :
    (session.next look).Notes (slots ∪ session.resolved look) := by
  cases result : session.report look with
  | error error =>
    rw [(next_of_error result).2.2, resolved_of_error result, Finset.union_empty]
    exact notes
  | ok progress =>
    constructor
    case fresh =>
      rw [(looked_of_ok result).initialized]
      nofun
    case numbered =>
      rw [notes.places_next result]
      exact notes.numbered.foldl_note _
    case slots =>
      rw [notes.places_next result, PlaceMap.slots_foldl_note look.slots.nodup_slots,
        List.toFinset_append, notes.slots, notes.toFinset_new, resolved_of_ok result,
        Finset.union_sdiff_self_eq_union]

/-- A look changes no place. -/
theorem Notes.place?_next (notes : session.Notes slots) {slot place : Nat} (look : Look)
    (placed : session.place? slot = some place) :
    (session.next look).place? slot = some place := by
  cases result : session.report look with
  | error error =>
    rw [(next_of_error result).2.2]
    exact placed
  | ok progress =>
    rw [place?, notes.places_next result]
    exact PlaceMap.get?_foldl_note_of_some look.slots.nodup_slots placed

/-- The new slots of a look take the next places in ascending order. -/
theorem Notes.taken (notes : session.Notes slots)
    (reported : session.report look = .ok progress) {slot : Nat}
    (new : slot ∈ look.slotSet \ slots) :
    (session.next look).place? slot =
      some (slots.card + 1 + ((look.slotSet \ slots).filter (· < slot)).card) := by
  rw [← notes.toFinset_new] at new ⊢
  rw [place?, notes.places_next reported, ← notes.size]
  exact PlaceMap.get?_foldl_note_of_new (List.pairwise_map.mpr look.slots.ordered)
    (List.mem_toFinset.mp new)

/-- A report lists the slots of a look by the places that are stored. No slot is missing there, so
the zero that would stand for a missing place never shows. -/
theorem Notes.reportsOn (notes : session.Notes slots)
    (reported : session.report look = .ok progress) :
    (session.next look).ReportsOn look progress := by
  have noted := notes.next look
  rw [resolved_of_ok reported] at noted
  have listed := (looked_of_ok reported).slots
  generalize session.next look = later at noted listed ⊢
  have perm : (progress.slots.map SlotLine.slot).Perm (look.slots.tasks.map Task.slot) :=
    listed ▸ slots_lines_perm later.places look.slots
  have once : (progress.slots.map SlotLine.slot).Nodup :=
    perm.nodup_iff.mpr look.slots.nodup_slots
  have placed : ∀ line ∈ progress.slots, 0 < line.index ∧
      later.place? line.slot = some line.index := by
    intro line member
    rw [listed] at member
    obtain ⟨task, held, rfl⟩ := List.mem_map.mp ((lines_perm _ _).mem_iff.mp member)
    have resolved : task.slot ∈ look.slotSet :=
      List.mem_toFinset.mpr (List.mem_map_of_mem held)
    obtain ⟨place, found⟩ := Option.isSome_iff_exists.mp
      ((noted.places.placed task.slot).mpr (Finset.mem_union_right _ resolved))
    have own : (lineOf later.places task).index = place := by
      rw [lineOf, ← place?, found, Option.getD_some]
    rw [own]
    exact ⟨((noted.places.numbers place).mp ⟨_, found⟩).1, found⟩
  refine ⟨once, List.toFinset_eq_of_perm _ _ perm, placed, ?_⟩
  -- No two lines share a place, because no two are of the same slot.
  have ordered : progress.slots.Pairwise fun a b => a.index ≤ b.index :=
    listed ▸ lines_ordered later.places look.slots
  refine List.pairwise_map.mpr ((ordered.and (List.pairwise_map.mp once)).imp_of_mem ?_)
  rintro a b first second ⟨below, distinct⟩
  refine Nat.lt_of_le_of_ne below fun same => distinct ?_
  exact noted.places.unshared _ _ _ (placed a first).2 (same ▸ (placed b second).2)

/-- What is stored decides what a look does: the slots that are new get the next numbers. -/
theorem Notes.proceeds (notes : session.Notes slots) (look : Look) :
    session.Proceeds slots look where
  taken := fun _ reported _ new => notes.taken reported new
  reports := fun _ reported => notes.reportsOn reported
  refused := fun _ refused => next_of_error refused

end Look

/-- A new session has stored nothing. -/
theorem notes_start (service : String) : (start service).Notes ∅ :=
  ⟨fun _ => rfl, PlaceMap.numbered_empty, rfl⟩

/-- **Many looks.** Behind a sequence of looks a session has also noted the slots that are resolved
in them. -/
theorem Notes.after {session : Session} {slots : Finset Nat} (notes : session.Notes slots)
    (looks : List Look) : (session.after looks).Notes (slots ∪ session.allResolved looks) := by
  induction looks generalizing session slots with
  | nil =>
    rw [allResolved, Finset.union_empty]
    exact notes
  | cons look looks ih =>
    rw [allResolved, ← Finset.union_assoc]
    exact ih (notes.next look)

/-- Looks change no place. -/
theorem Notes.place?_after {session : Session} {slots : Finset Nat} (notes : session.Notes slots)
    {slot place : Nat} (looks : List Look) (placed : session.place? slot = some place) :
    (session.after looks).place? slot = some place := by
  induction looks generalizing session slots with
  | nil => exact placed
  | cons look looks ih => exact ih (notes.next look) (notes.place?_next look placed)

/-- **Places are assigned once.** Behind any sequence of looks the places of a session are the
numbers from 1 to the number of different slots that were resolved in the looks with a report, one
each. No slot ever changes its place. A look that has a report puts the slots that are new behind
all others, in ascending order, and lists the slots that it resolves, each once, in the strictly
ascending order of their places, none of which is zero. A look without a report leaves the session
as it is; it only occurs when the service gives no number of replicas. -/
theorem places_assigned_once (service : String) (looks : List Look) :
    ((start service).after looks).Places ((start service).allResolved looks) ∧
      (∀ more slot place, ((start service).after looks).place? slot = some place →
        ((start service).after (looks ++ more)).place? slot = some place) ∧
      ∀ look, ((start service).after looks).Proceeds ((start service).allResolved looks) look := by
  have notes := (notes_start service).after looks
  rw [Finset.empty_union] at notes
  refine ⟨notes.places, ?_, notes.proceeds⟩
  intro more slot place placed
  rw [after_append]
  exact notes.place?_after more placed

end Session

end ReplicaWatch
