import ReplicaWatch.Convergence.Error
import ReplicaWatch.Convergence.Slots

/-! # The bookkeeping of one wait

A session turns one observation after another into progress reports. It stores the place
of each slot in the reports: a slot that is seen for the first time is stored with one more
than the number of slots that are stored already. The session is done once the running
replicas are as many as are wanted, and no longer done as soon as some slot is seen that
does not run.
-/

namespace ReplicaWatch

/-- What one poll reads: the service, the tasks that are wanted running, and all
nodes. -/
structure Snapshot where
  service : Service
  tasks : List Task
  nodes : List Node
  deriving DecidableEq

/-- One slot's line in a progress report. -/
structure SlotLine where
  /-- The slot's place in the reports of the session, from 1. -/
  index : Nat
  slot : Nat
  task : String
  node : String
  desired : ReportedState
  observed : ReportedState
  message : String
  deriving DecidableEq

/-- The text of a line. -/
def SlotLine.text (line : SlotLine) : String :=
  toString line.index ++ "/" ++ toString line.slot ++ ": " ++ line.task ++
    " (" ++ line.observed.text ++ " -> " ++ line.desired.text ++ ")" ++
    (if line.message.isEmpty then "" else " " ++ line.message)

/-- What one observation amounts to. -/
structure Progress where
  service : String
  running : Nat
  desired : Nat
  rollback : Bool
  /-- The lines in the order of their places. -/
  slots : List SlotLine
  deriving DecidableEq

namespace Progress

/-- Whether as many replicas run as are wanted. -/
def isConverged (progress : Progress) : Bool := progress.running == progress.desired

/-- The text of a report, without its lines. -/
def text (progress : Progress) : String :=
  "progress: [" ++ toString progress.running ++ "/" ++ toString progress.desired ++
    "] - rollback: " ++ (if progress.rollback then "true" else "false")

end Progress

/-- The places of slots in the reports, each stored with its slot. -/
structure PlaceMap where
  entries : List (Nat × Nat)
  deriving DecidableEq

namespace PlaceMap

/-- No slot has a place. -/
def empty : PlaceMap := ⟨[]⟩

/-- The number of places that are stored. -/
def size (places : PlaceMap) : Nat := places.entries.length

/-- The place that is stored with a slot. -/
def get? (places : PlaceMap) (slot : Nat) : Option Nat := places.entries.lookup slot

/-- Stores a place with a slot, unless one is stored with it already. -/
def insertNew (places : PlaceMap) (slot place : Nat) : PlaceMap :=
  if (places.get? slot).isSome then places else ⟨places.entries ++ [(slot, place)]⟩

/-- Sees a slot, which gets the next place if it has none. -/
def note (places : PlaceMap) (slot : Nat) : PlaceMap := places.insertNew slot (places.size + 1)

end PlaceMap

/-- The bookkeeping of one wait. -/
structure Session where
  service : String
  /-- The places of the slots seen so far. -/
  places : PlaceMap
  /-- Whether some observation was evaluated. -/
  initialized : Bool
  /-- Whether convergence was reached and not lost again. -/
  done : Bool
  deriving DecidableEq

namespace Session

/-- The session of a wait that has not looked yet. -/
def start (service : String) : Session := ⟨service, .empty, false, false⟩

/-- The places that an observation goes on from: none before the first one is evaluated. -/
def known (session : Session) : PlaceMap := if session.initialized then session.places else .empty

/-- The line of a task. A slot without a place would get zero. -/
def lineOf (places : PlaceMap) (task : Task) : SlotLine where
  index := (places.get? task.slot).getD 0
  slot := task.slot
  task := task.id
  node := task.node
  desired := task.desired
  observed := task.observed
  message := task.message

/-- The lines of the resolved slots, in the order of their places. -/
def lines (places : PlaceMap) (slots : SlotMap) : List SlotLine :=
  (slots.tasks.map (lineOf places)).mergeSort fun a b => decide (a.index ≤ b.index)

/-- Whether every resolved slot is observed running. -/
def allRunning (slots : SlotMap) : Bool := slots.tasks.all fun task => task.observed.is .running

/-- Evaluates one observation: the progress, and the session that goes on. A service
without a number of replicas has no progress and leaves the session as it is. -/
def observe (session : Session) (snapshot : Snapshot) (rollback : Bool) :
    Except ConvergenceError Progress × Session :=
  match snapshot.service.replicas? with
  | none => (.error (.noReplicaCount session.service), session)
  | some desired =>
    let slots := SlotMap.resolve snapshot.tasks (.ofNodes snapshot.nodes)
    let places := (slots.tasks.map Task.slot).foldl PlaceMap.note session.known
    let progress : Progress :=
      { service := session.service
        running := slots.countRunning
        desired := desired
        rollback := rollback
        slots := lines places slots }
    (.ok progress,
      { session with
        places := places
        initialized := true
        done := session.done && allRunning slots || progress.isConverged })

end Session

end ReplicaWatch
