import ReplicaWatch.Proofs.Cluster.History

/-! # The frame that is shown

A cluster shows the frame at one place of its script (`ScriptedCluster.place?`). An inspection that
no injected failure answers goes on by one place as long as the script has one more, and listings
are answered from the frame at that place. But the place is found anew for every call, from the
number of inspections and the length of the script. Once there were more inspections than frames, a
frame that is pushed is shown at once, before it is inspected, and of several the first ones are
never inspected (`ScriptedCluster.listing_strays`). Else all is in order
(`ScriptedCluster.place_since_inspection`).
-/

namespace ReplicaWatch.ScriptedCluster

namespace Event

/-- An inspection that no injected failure answered. -/
def advances : Event → Bool
  | .called entry injected => injected.isNone && entry.1.operation == .inspectService
  | _ => false

/-- The frame that was added to the script. -/
def pushed? : Event → Option Frame
  | .pushed frame => some frame
  | _ => none

end Event

/-- The place in the script of the frame that is shown, counted from zero. -/
def place? (cluster : ScriptedCluster) : Option Nat :=
  if cluster.frames = [] then none
  else some (min (cluster.inspections - 1) (cluster.frames.length - 1))

/-- The frame at that place. -/
def shown? (cluster : ScriptedCluster) : Option Frame :=
  cluster.place?.bind fun place => cluster.frames[place]?

variable {id : String} {cluster : ScriptedCluster} {steps : List Act}

/-- Listings read the frame at the place that the script and the inspections give. -/
theorem currentFrame?_eq_shown? (cluster : ScriptedCluster) :
    cluster.currentFrame? = cluster.shown? := by
  unfold currentFrame? shown? place?
  by_cases empty : cluster.frames = []
  · simp [empty]
  · have length := List.length_pos_iff.mpr empty
    simp only [empty, if_false, Option.bind_some]
    by_cases inside : cluster.inspections - 1 < cluster.frames.length
    · rw [List.getElem?_eq_getElem inside, Nat.min_eq_left (by omega),
        List.getElem?_eq_getElem inside]
    · rw [List.getElem?_eq_none (Nat.le_of_not_lt inside), Nat.min_eq_right (by omega),
        List.getLast?_eq_getElem?]

/-! ## One act -/

/-- An act adds to the script just the frame that it pushes. -/
theorem frames_act (cluster : ScriptedCluster) (step : Act) :
    (cluster.act step).frames = cluster.frames ++ (cluster.event step).pushed?.toList := by
  cases step with
  | call call => exact (frames_answer cluster call).trans (List.append_nil _).symm
  | pushFrame frame => rfl
  | _ => exact (List.append_nil _).symm

/-- An answer is counted as an inspection when it is one that no injected failure took. -/
theorem inspections_answer (cluster : ScriptedCluster) (call : Call) :
    (cluster.answer call).2.inspections =
      cluster.inspections + (cluster.event (.call call)).advances.toNat := by
  have advances : (cluster.event (.call call)).advances =
      ((cluster.failures call.operation).head?.isNone &&
        call.operation == .inspectService) := rfl
  rw [advances]
  have ends := answer_ends cluster call
  generalize cluster.answer call = answered at ends ⊢
  cases ends with
  | failed queued => simp [queued, noting, withoutFailure]
  | inspected free => simp [free, Call.operation, noting, advanced]
  | missed free => simp [free, Call.operation, noting, advanced]
  | _ => simp [Call.operation, noting, withoutContainer]

/-- An act moves the script on by at most one inspection. -/
theorem inspections_act (cluster : ScriptedCluster) (step : Act) :
    (cluster.act step).inspections =
      cluster.inspections + (cluster.event step).advances.toNat := by
  cases step with
  | call call => exact cluster.inspections_answer call
  | _ => rfl

/-- After a run the script ends with the frames that were pushed in it, in their order. -/
theorem frames_acts (cluster : ScriptedCluster) (steps : List Act) :
    (cluster.acts steps).frames =
      cluster.frames ++ (cluster.history steps).filterMap Event.pushed? :=
  field_acts frames_act cluster steps

/-- The inspections of a run are those that no injected failure answered. -/
theorem inspections_acts (cluster : ScriptedCluster) (steps : List Act) :
    (cluster.acts steps).inspections =
      cluster.inspections + (cluster.history steps).countP Event.advances := by
  induction steps using List.reverseRecOn with
  | nil => rfl
  | append_singleton steps last ih =>
    rw [acts_concat, history_concat, inspections_act, ih, List.countP_append, Nat.add_assoc]
    cases told : ((cluster.acts steps).event last).advances <;> simp [told]

/-- Behind an inspection that no injected failure answers. -/
theorem inspections_of_free (free : cluster.failures .inspectService = []) (id : String) :
    (cluster.act (.call (.inspectService id))).inspections = cluster.inspections + 1 := by
  have advances : (cluster.event (.call (.inspectService id))).advances = true := by
    simp [event, Event.advances, Call.operation, free]
  rw [inspections_act, advances]
  rfl

/-! ## What is answered from the frame -/

/-- What a successful inspection answers is read off the frame that it moves on to: the service of
that frame, if it is the one that was asked for. -/
theorem inspection_answered (free : cluster.failures .inspectService = [])
    (unremoved : id ∉ cluster.removedServices) :
    (cluster.answer (.inspectService id)).1 =
      some ((((cluster.act (.call (.inspectService id))).shown?.bind Frame.service).filter
        fun service => service.id == id).elim (.error (missingService id)) .ok) := by
  have shown : (cluster.act (.call (.inspectService id))).shown? = cluster.advanced.shown? := by
    unfold shown? place?
    rw [inspections_of_free free, act, frames_answer]
    rfl
  have found : cluster.advanced.service? id =
      (cluster.advanced.shown?.bind Frame.service).filter fun service => service.id == id := by
    have absent : ¬cluster.advanced.removedServices.contains id = true := by
      rwa [List.contains_iff_mem]
    rw [service?, if_neg absent, currentFrame?_eq_shown?]
    cases cluster.advanced.shown? <;> rfl
  rw [shown, ← found]
  have ends := answer_ends cluster (.inspectService id)
  generalize cluster.answer (.inspectService id) = answered at ends ⊢
  cases ends with
  | failed queued => exact absurd (queued.symm.trans free) (List.cons_ne_nil _ _)
  | inspected _ seen => rw [seen]; rfl
  | missed _ unseen => rw [unseen]; rfl

/-- A listing of tasks reads the frame that is shown, and moves nothing on. -/
theorem tasks_answered {filter : TaskFilter} (free : cluster.failures .listTasks = [])
    (unremoved : filter.service ∉ cluster.removedServices) :
    (cluster.answer (.listTasks filter)).1 =
      some (.ok (cluster.shown?.elim [] fun frame => frame.tasks.filter (lists filter))) := by
  have ends := answer_ends cluster (.listTasks filter)
  generalize cluster.answer (.listTasks filter) = answered at ends ⊢
  cases ends with
  | failed queued => exact absurd (queued.symm.trans free) (List.cons_ne_nil _ _)
  | tasksListed =>
    rw [tasksFor, if_neg (by rwa [List.contains_iff_mem]), currentFrame?_eq_shown?]
    cases cluster.shown? <;> rfl

theorem nodes_answered (free : cluster.failures .listNodes = []) :
    (cluster.answer .listNodes).1 = some (.ok (cluster.shown?.elim [] Frame.nodes)) := by
  have ends := answer_ends cluster .listNodes
  generalize cluster.answer .listNodes = answered at ends ⊢
  cases ends with
  | failed queued => exact absurd (queued.symm.trans free) (List.cons_ne_nil _ _)
  | nodesListed =>
    rw [nodes, currentFrame?_eq_shown?]
    cases cluster.shown? <;> rfl

/-! ## From one inspection to the next -/

/-- Only an empty script has no place. -/
theorem place?_eq_none_iff : cluster.place? = none ↔ cluster.frames.length = 0 := by
  simp [place?, List.length_eq_zero_iff]

/-- In a script with frames the place follows the inspections up to the last frame. -/
theorem place?_of_length_pos (positive : 0 < cluster.frames.length) :
    cluster.place? = some (min (cluster.inspections - 1) (cluster.frames.length - 1)) :=
  if_neg (List.length_pos_iff.mp positive)

/-- As long as no inspection goes on, the place stays the same, unless there were more inspections
than frames and a frame is pushed. -/
theorem place?_eq_iff {inspected now : ScriptedCluster} {more : List Frame}
    (positive : 0 < inspected.inspections) (same : now.inspections = inspected.inspections)
    (grown : now.frames = inspected.frames ++ more) :
    now.place? = inspected.place? ↔
      inspected.inspections ≤ inspected.frames.length ∨ now.frames = inspected.frames := by
  have length : now.frames.length = inspected.frames.length + more.length := by
    rw [grown, List.length_append]
  have unchanged : now.frames = inspected.frames ↔ more.length = 0 := by
    rw [grown, List.append_right_eq_self, List.length_eq_zero_iff]
  rw [unchanged]
  by_cases empty : inspected.frames.length = 0
  · rw [place?_eq_none_iff.mpr empty, place?_eq_none_iff]
    omega
  · rw [place?_of_length_pos (by omega), place?_of_length_pos (by omega), Option.some_inj, same]
    omega

/-- The frame at a place is the same in a longer script. -/
theorem shown?_eq_of_place? {inspected now : ScriptedCluster} {more : List Frame}
    (grown : now.frames = inspected.frames ++ more) (stayed : now.place? = inspected.place?) :
    now.shown? = inspected.shown? := by
  unfold shown?
  rw [stayed, grown]
  by_cases empty : inspected.frames.length = 0
  · rw [place?_eq_none_iff.mpr empty]
    rfl
  · rw [place?_of_length_pos (Nat.pos_of_ne_zero empty)]
    exact List.getElem?_append_left (by omega)

/-- The next inspection goes on by one place if the script has one more, and stays at the last one
else. It goes on further if there were more inspections than frames and several are pushed. -/
theorem exists_place?_next {inspected next : ScriptedCluster} {more : List Frame} {place : Nat}
    (positive : 0 < inspected.inspections) (once : next.inspections = inspected.inspections + 1)
    (grown : next.frames = inspected.frames ++ more) (stood : inspected.place? = some place) :
    ∃ further, next.place? = some further ∧ place ≤ further ∧
      (further = place ↔ next.frames.length = place + 1) ∧
      (further ≤ place + 1 ↔ inspected.inspections ≤ inspected.frames.length ∨
        next.frames.length ≤ inspected.frames.length + 1) := by
  have length : next.frames.length = inspected.frames.length + more.length := by
    rw [grown, List.length_append]
  have present : 0 < inspected.frames.length := by
    apply Nat.pos_of_ne_zero
    intro empty
    rw [place?_eq_none_iff.mpr empty] at stood
    cases stood
  rw [place?_of_length_pos present, Option.some_inj] at stood
  refine ⟨_, place?_of_length_pos (by omega), ?_⟩
  rw [once]
  omega

/-- How a cluster goes on from an inspection until the next one. -/
structure Continues (inspected now : ScriptedCluster) : Prop where
  nodes : now.failures .listNodes = [] →
    (now.answer .listNodes).1 = some (.ok (now.shown?.elim [] Frame.nodes))
  tasks : ∀ filter, now.failures .listTasks = [] → filter.service ∉ now.removedServices →
    (now.answer (.listTasks filter)).1 =
      some (.ok (now.shown?.elim [] fun frame => frame.tasks.filter (lists filter)))
  /-- The place is another one just when there were more inspections than frames, and a frame was
  pushed since. -/
  stays : now.place? = inspected.place? ↔
    inspected.inspections ≤ inspected.frames.length ∨ now.frames = inspected.frames
  shows : now.place? = inspected.place? → now.shown? = inspected.shown?
  /-- The next inspection never goes back, stays only at the end of the script, and skips a frame
  just when there were more inspections than frames, and several frames were pushed since. -/
  next : ∀ id, now.failures .inspectService = [] → ∀ place, inspected.place? = some place →
    ∃ further, (now.act (.call (.inspectService id))).place? = some further ∧
      place ≤ further ∧ (further = place ↔ now.frames.length = place + 1) ∧
      (further ≤ place + 1 ↔ inspected.inspections ≤ inspected.frames.length ∨
        now.frames.length ≤ inspected.frames.length + 1)

/-- Whatever happens between two inspections but for pushes, the script goes on as described. -/
theorem continues {inspected now : ScriptedCluster} {more : List Frame}
    (positive : 0 < inspected.inspections) (same : now.inspections = inspected.inspections)
    (grown : now.frames = inspected.frames ++ more) : Continues inspected now where
  nodes := nodes_answered
  tasks _ := tasks_answered
  stays := place?_eq_iff positive same grown
  shows := shown?_eq_of_place? grown
  next id unfailed place stood := by
    have kept : (now.act (.call (.inspectService id))).frames = now.frames :=
      frames_answer now (.inspectService id)
    have once : (now.act (.call (.inspectService id))).inspections =
        inspected.inspections + 1 := by rw [inspections_of_free unfailed, same]
    have next := exists_place?_next positive once (kept.trans grown) stood
    rwa [kept] at next

/-- **From one inspection to the next.** Take a run of a cluster from the beginning of its script,
an inspection in it that no injected failure answers, and what happens then without another such
inspection. The inspection is answered from the frame at the place where it leaves the cluster, the
first one from the first frame, and the cluster continues from that place. -/
theorem place_since_inspection (frames : List Frame) (earlier later : List Act) (id : String)
    (free : ((ofFrames frames).acts earlier).failures .inspectService = [])
    (quiet : ∀ event ∈ (((ofFrames frames).acts earlier).act
      (.call (.inspectService id))).history later, event.advances = false) :
    let before := (ofFrames frames).acts earlier
    let inspected := before.act (.call (.inspectService id))
    let now := inspected.acts later
    inspected.inspections = ((ofFrames frames).history earlier).countP Event.advances + 1 ∧
      inspected.frames = frames ++ ((ofFrames frames).history earlier).filterMap Event.pushed? ∧
      now.frames = inspected.frames ++ (inspected.history later).filterMap Event.pushed? ∧
      (id ∉ before.removedServices →
        (before.answer (.inspectService id)).1 =
          some (((inspected.shown?.bind Frame.service).filter fun service => service.id == id).elim
            (.error (missingService id)) .ok)) ∧
      (inspected.inspections = 1 → ∀ place, inspected.place? = some place → place = 0) ∧
      Continues inspected now := by
  intro before inspected now
  have counted : inspected.inspections =
      ((ofFrames frames).history earlier).countP Event.advances + 1 := by
    rw [inspections_of_free free, inspections_acts, ofFrames, Nat.zero_add]
  have script : inspected.frames =
      frames ++ ((ofFrames frames).history earlier).filterMap Event.pushed? :=
    (frames_answer before _).trans (frames_acts _ _)
  have grown : now.frames = inspected.frames ++ (inspected.history later).filterMap Event.pushed? :=
    frames_acts inspected later
  have same : now.inspections = inspected.inspections := by
    rw [inspections_acts, List.countP_eq_zero.mpr fun event member => by
      rw [quiet event member]; exact Bool.false_ne_true]
    rfl
  refine ⟨counted, script, grown, inspection_answered free, ?_, continues (by omega) same grown⟩
  intro once place stood
  unfold place? at stood
  split at stood
  · cases stood
  · cases stood
    omega

/-- A frame with a service of which some replicas are wanted, on some nodes. -/
private def scene (replicas : Nat) (nodes : List Node) : Frame :=
  ⟨some ⟨"web", "web", .replicated (some replicas), none, none⟩, [], nodes⟩

private def first : Frame := scene 1 [⟨"n1", .ready⟩]
private def second : Frame := scene 2 [⟨"n1", .ready⟩, ⟨"n2", .ready⟩]
private def third : Frame := scene 3 [⟨"n1", .down⟩, ⟨"n2", .ready⟩]

private def inspection : Act := .call (.inspectService "web")

/-- Behind a second inspection of the only frame, one that is pushed is shown at once. -/
theorem place_since_inspection_repeated :
    ((ofFrames [first]).acts [inspection]).failures .inspectService = [] ∧
      (∀ event ∈ ((ofFrames [first]).acts [inspection, inspection]).history [.pushFrame second],
        event.advances = false) ∧
      ((ofFrames [first]).acts [inspection, inspection]).place? = some 0 ∧
      ((ofFrames [first]).acts [inspection, inspection, .pushFrame second]).place? ≠ some 0 := by
  have quiet : ∀ event ∈ ((ofFrames [first]).acts [inspection, inspection]).history
      [.pushFrame second], event.advances = false := by
    simp [history, event, Event.advances]
  obtain ⟨-, -, -, -, -, continued⟩ :=
    place_since_inspection [first] [inspection] [.pushFrame second] "web" rfl quiet
  refine ⟨rfl, quiet, rfl, fun stayed => ?_⟩
  rcases continued.stays.mp stayed with few | unchanged
  · exact absurd few (by decide)
  · exact absurd (congrArg List.length unchanged) (by decide)

/-- What an inspection tells that no injected failure answers. -/
private def seen (replicas : Nat) : Event :=
  .called ⟨.inspectService "web",
    some (.ok ⟨"web", "web", .replicated (some replicas), none, none⟩)⟩ none

/-- The nodes that are listed are those of a frame that was not inspected, and a frame that was
pushed is never inspected. -/
theorem listing_strays :
    (ofFrames [first]).history [inspection, inspection, .pushFrame second, .call .listNodes] =
        [seen 1, seen 1, .pushed second, .called ⟨.listNodes, some (.ok second.nodes)⟩ none] ∧
      first.nodes ≠ second.nodes ∧
      (ofFrames [first]).history
          [inspection, inspection, .pushFrame second, .pushFrame third, inspection] =
        [seen 1, seen 1, .pushed second, .pushed third, seen 3] :=
  ⟨rfl, by decide, rfl⟩

end ReplicaWatch.ScriptedCluster
