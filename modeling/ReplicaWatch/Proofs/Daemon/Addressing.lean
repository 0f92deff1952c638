import ReplicaWatch.Proofs.Daemon.BaseUrl
import ReplicaWatch.Proofs.Url.Parts

/-! # What a request addresses

A call that is about one service or container should address just that one: its path is the base's,
followed by the kind of the resource, a segment that stands for its id, and what is done with it
(`Request.Addresses`). But the id is read as a part of a reference. It is addressed just when
nothing in it means anything there (`Request.Target.Literal`); any other id addresses something else
or nothing, which shows in the bytes that the path stands for (`Request.literal_of_path`).
-/

namespace ReplicaWatch.Request

/-! ## Targets -/

/-- A word that a reference takes as it is. -/
structure Word (word : String) : Prop where
  nonempty : word.toList ≠ []
  printed : ∀ c ∈ word.toList, 0x20 < c.toNat
  unmarked : ∀ c ∈ word.toList, c ∉ Url.marks
  undotted : Url.isDoubleDot word.toList = false ∧ Url.isSingleDot word.toList = false
  uncoded : Text.hasPercentCode word.toList = false
  unencoded : Url.segmentText word.toList = word

/-- What a call is about: a resource of some kind by its id, and what is done with it beyond the
call's method. -/
structure Target where
  kind : String
  id : String
  action : List String
  words : ∀ word ∈ kind :: action, Word word

theorem word_services : Word "services" :=
  ⟨by decide, by simp, by simp [Url.marks], by decide, rfl, rfl⟩

theorem word_containers : Word "containers" :=
  ⟨by decide, by simp, by simp [Url.marks], by decide, rfl, rfl⟩

theorem word_wait : Word "wait" :=
  ⟨by decide, by simp, by simp [Url.marks], by decide, rfl, rfl⟩

namespace Target

/-- A service as such. -/
def service (id : String) : Target :=
  ⟨"services", id, [], List.forall_mem_singleton.mpr word_services⟩

/-- A container as such. -/
def container (id : String) : Target :=
  ⟨"containers", id, [], List.forall_mem_singleton.mpr word_containers⟩

/-- The end of a container. -/
def containerEnd (id : String) : Target :=
  ⟨"containers", id, ["wait"],
    List.forall_mem_cons.mpr ⟨word_containers, List.forall_mem_singleton.mpr word_wait⟩⟩

/-- The parts of a target's reference. -/
def parts (target : Target) : List (List Char) :=
  target.kind.toList :: target.id.toList :: target.action.map String.toList

/-- Nothing in the id of a target means anything in a reference: no mark, no percent code, no dots
that lead elsewhere, and no blank at the end of the reference. -/
structure Literal (target : Target) : Prop where
  unmarked : ∀ c ∈ target.id.toList, c ∉ Url.marks
  uncoded : Text.hasPercentCode target.id.toList = false
  undotted : Url.isDoubleDot target.id.toList = false ∧ Url.isSingleDot target.id.toList = false
  ended : target.action = [] → ∀ c ∈ target.id.toList.getLast?, 0x20 < c.toNat

end Target

/-- The target of a call, if it is about one resource. -/
def targetOf : Call → Option Target
  | .listTasks _ => none
  | .listNodes => none
  | .inspectService id => some (.service id)
  | .removeService id => some (.service id)
  | .removeContainer id _ => some (.container id)
  | .waitContainerRemoved id => some (.containerEnd id)

/-- A URL addresses a target: it has the path of the base, followed by segments for the target, of
which that of the id stands for just the id, and no query but the call's parameters. -/
structure Addresses (base : Url) (call : Call) (target : Target) (url : Url) : Prop where
  path : ∃ front segment, base.path = .segments (front ++ [""]) ∧
    url.path = .segments (front ++ target.kind :: segment :: target.action) ∧
    Text.ofUtf8? (Text.percentDecode segment.toList) = some target.id
  query : url.query =
    if (parametersOf call).isEmpty then none
    else some (String.ofList (Text.formEncode (parametersOf call)))

/-- The endpoint of a call on one resource is made of the parts of its target. -/
theorem endpointOf_eq {call : Call} {target : Target} (named : targetOf call = some target) :
    (endpointOf call).toList = Url.joined target.parts := by
  cases call with
  | listTasks => cases named
  | listNodes => cases named
  | waitContainerRemoved id =>
    cases named
    simp [endpointOf, Target.parts, Target.containerEnd, Url.joined]
  | _ =>
    cases named
    simp [endpointOf, Target.parts, Target.service, Target.container, Url.joined]

/-! ## Literal ids -/

variable {target : Target} {front : List String} {segment : String}

/-- The words around an id have no marks, so that a target has as few as its id. -/
theorem Target.unmarked_parts (unmarked : ∀ c ∈ target.id.toList, c ∉ Url.marks) :
    ∀ part ∈ target.parts, ∀ c ∈ part, c ∉ Url.marks := by
  obtain ⟨kind, actions⟩ := List.forall_mem_cons.mp target.words
  refine List.forall_mem_cons.mpr ⟨kind.unmarked, List.forall_mem_cons.mpr ⟨unmarked, ?_⟩⟩
  intro part member
  obtain ⟨word, listed, rfl⟩ := List.mem_map.mp member
  exact (actions word listed).unmarked

/-- A target's reference starts with the first letter of its kind. -/
theorem Target.exists_first (target : Target) :
    ∃ first others, Url.joined target.parts = first :: others ∧ 0x20 < first.toNat := by
  have kind := target.words target.kind List.mem_cons_self
  obtain ⟨first, others, shape⟩ := List.exists_cons_of_ne_nil kind.nonempty
  have printed := kind.printed first (by simp [shape])
  refine ⟨first, others ++ '/' :: Url.joined (target.id.toList :: target.action.map String.toList),
    ?_, printed⟩
  rw [← List.cons_append, ← shape]
  rfl

/-- A target's reference ends with its id, or with a word behind it. -/
theorem Target.last_printed (nonempty : target.id ≠ "")
    (ended : target.action = [] → ∀ c ∈ target.id.toList.getLast?, 0x20 < c.toNat) :
    ∀ c ∈ (Url.joined target.parts).getLast?, 0x20 < c.toNat := by
  obtain bare | ⟨front, word, acted⟩ := List.eq_nil_or_concat target.action
  · have ends : target.parts.getLast? = some target.id.toList := by simp [parts, bare]
    rw [Url.getLast?_joined (by simpa using nonempty) ends]
    exact ended bare
  · have own : Word word := target.words word (by simp [acted])
    have ends : target.parts.getLast? = some word.toList := by
      rw [parts, acted, List.concat_eq_append, List.map_append, ← List.cons_append,
        ← List.cons_append]
      exact List.getLast?_concat
    rw [Url.getLast?_joined own.nonempty ends]
    exact fun c last => own.printed c (List.mem_of_getLast? last)

/-- A reference with an unmarked id comes apart into the parts of the target, and has no query. -/
theorem Target.segmentsOf_parts (nonempty : target.id ≠ "")
    (unmarked : ∀ c ∈ target.id.toList, c ∉ Url.marks)
    (ended : target.action = [] → ∀ c ∈ target.id.toList.getLast?, 0x20 < c.toNat) :
    Url.segmentsOf (Url.joined target.parts) = target.parts ∧
      (Url.Tail.split (Url.cleaned (Url.joined target.parts))).query = none := by
  obtain ⟨first, others, shape, printed⟩ := target.exists_first
  refine Url.segmentsOf_joined (List.cons_ne_nil _ _) (unmarked_parts unmarked) ?_
    (last_printed nonempty ended)
  intro c starts
  rw [shape] at starts
  obtain rfl := Option.some.inj starts
  exact printed

/-- The words of a target and its id are put below the path. -/
theorem Target.addSegments_parts
    (undotted : Url.isDoubleDot target.id.toList = false ∧ Url.isSingleDot target.id.toList = false)
    (path : List String) :
    Url.addSegments path target.parts =
      path ++ target.kind :: Url.segmentText target.id.toList :: target.action := by
  obtain ⟨kind, actions⟩ := List.forall_mem_cons.mp target.words
  have words : (target.action.map String.toList).map Url.segmentText = target.action := by
    rw [List.map_map]
    exact (List.map_congr_left fun word listed => (actions word listed).unencoded).trans
      (List.map_id' _)
  rw [Url.addSegments_undotted, parts, List.map_cons, List.map_cons, words, kind.unencoded]
  refine List.forall_mem_cons.mpr ⟨kind.undotted, List.forall_mem_cons.mpr ⟨undotted, ?_⟩⟩
  intro part member
  obtain ⟨word, listed, rfl⟩ := List.mem_map.mp member
  exact (actions word listed).undotted

/-- A path of words stands for the bytes of the words. -/
theorem weight_words {words : List String} (own : ∀ word ∈ words, Word word) :
    Url.weight words = (Text.utf8Bytes (words.map String.toList).flatten).length := by
  induction words with
  | nil => rfl
  | cons word words ih =>
    obtain ⟨first, own⟩ := List.forall_mem_cons.mp own
    rw [Url.weight_cons, Text.percentDecode_of_plain first.uncoded, ih own, List.map_cons,
      List.flatten_cons, Text.utf8Bytes_append, List.length_append]

/-- The bytes of a target are those of its words and those of its id. -/
theorem Target.length_parts (target : Target) :
    (Text.utf8Bytes target.parts.flatten).length =
      (Text.utf8Bytes target.kind.toList).length + (Text.utf8Bytes target.id.toList).length +
        (Text.utf8Bytes (target.action.map String.toList).flatten).length := by
  rw [parts, List.flatten_cons, List.flatten_cons, Text.utf8Bytes_append, Text.utf8Bytes_append,
    List.length_append, List.length_append, Nat.add_assoc]

/-! ## Only literal ids -/

section Stands

variable (nonempty : target.id ≠ "")
  (decoded : Text.ofUtf8? (Text.percentDecode segment.toList) = some target.id)
include decoded

/-- A path that addresses a target stands for all bytes of the target's parts. -/
theorem Target.weight_eq :
    Url.weight (target.kind :: segment :: target.action) =
      (Text.utf8Bytes target.parts.flatten).length := by
  obtain ⟨kind, actions⟩ := List.forall_mem_cons.mp target.words
  rw [Url.weight_cons, Url.weight_cons, Text.percentDecode_of_plain kind.uncoded,
    Text.ofUtf8?_eq_some_iff.mp decoded, weight_words actions, target.length_parts, Nat.add_assoc]

include nonempty

/-- Dots would stand for nothing. -/
theorem Target.undotted_of_path
    (added : Url.addSegments front target.parts =
      front ++ target.kind :: segment :: target.action) :
    Url.isDoubleDot target.id.toList = false ∧ Url.isSingleDot target.id.toList = false := by
  rw [← Bool.or_eq_false_iff, Bool.eq_false_iff]
  intro dotted
  have light := Url.weight_addSegments_dotted dotted front [target.kind.toList]
    (target.action.map String.toList)
  rw [List.singleton_append, ← parts, added, Url.weight_append, weight_eq decoded,
    target.length_parts, List.flatten_singleton] at light
  have empty := Text.eq_of_length_utf8Bytes_le (List.nil_sublist target.id.toList)
    (show _ ≤ 0 by omega)
  exact nonempty (String.toList_eq_nil_iff.mp empty.symm)

omit decoded in
/-- A blank at the end of the reference would be dropped. -/
theorem Target.ended_of_kept (unmarked : ∀ c ∈ target.id.toList, c ∉ Url.marks)
    (kept : (Url.cleaned (Url.joined target.parts)).filter (· ∉ Url.marks) = target.parts.flatten)
    (bare : target.action = []) : ∀ c ∈ target.id.toList.getLast?, 0x20 < c.toNat := by
  obtain ⟨first, others, shape, printed⟩ := target.exists_first
  have whole : (Url.joined target.parts).filter (· ∉ Url.marks) = target.parts.flatten := by
    rw [Url.filter_joined, List.filter_eq_self]
    intro c member
    obtain ⟨part, listed, there⟩ := List.mem_flatten.mp member
    exact decide_eq_true (unmarked_parts unmarked part listed c there)
  have ends : (Url.joined target.parts).getLast? = target.id.toList.getLast? :=
    Url.getLast?_joined (by simpa using nonempty) (by simp [parts, bare])
  rw [← whole, shape] at kept
  rw [shape] at ends
  intro c last
  exact Url.printed_of_kept printed kept c (ends ▸ last) (unmarked c (List.mem_of_getLast? last))

/-- If what a reference adds to a path has a segment that stands for the id, the id was literal. -/
theorem literal_of_path
    (added : Url.addSegments front (Url.segmentsOf (Url.joined target.parts)) =
      front ++ target.kind :: segment :: target.action) : target.Literal := by
  obtain ⟨unmarked, kept⟩ := Url.kept_of_weight added (Target.weight_eq decoded).ge
  have unmarked : ∀ c ∈ target.id.toList, c ∉ Url.marks :=
    unmarked _ (List.mem_cons_of_mem _ List.mem_cons_self)
  have ended := Target.ended_of_kept nonempty unmarked kept
  rw [(Target.segmentsOf_parts nonempty unmarked ended).1] at added
  have undotted := Target.undotted_of_path nonempty decoded added
  rw [Target.addSegments_parts undotted, List.append_cancel_left_eq, List.cons.injEq,
    List.cons.injEq] at added
  refine ⟨unmarked, ?_, undotted, ended⟩
  rw [Bool.eq_false_iff]
  intro coded
  have fewer := Text.length_percentDecode_lt coded
  have bytes := Text.ofUtf8?_eq_some_iff.mp decoded
  rw [← added.2.1, Url.percentDecode_segmentText] at bytes
  rw [bytes] at fewer
  exact Nat.lt_irrefl _ fewer

end Stands

/-! ## Requests -/

variable {toAscii : Url.DomainReader} {base : Url} {call : Call}

/-- A call about one resource has a request, which addresses the resource just when its id is
literal. -/
theorem exists_request (special : Url.isSpecialScheme base.scheme = true)
    (closed : base.path = .segments (front ++ [""])) (named : targetOf call = some target)
    (nonempty : target.id ≠ "") :
    ∃ request, ofCall base call toAscii = .ok request ∧ request.method = methodOf call ∧
      request.url.scheme = base.scheme ∧ request.url.authority = base.authority ∧
      (Addresses base call target request.url ↔ target.Literal) := by
  obtain ⟨request, sent, method, scheme, authority, path⟩ := ofCall_of_closed special closed call
  rw [segmentsOf, endpointOf_eq named] at path
  refine ⟨request, sent, method, scheme, authority, ?_, ?_⟩
  · intro addresses
    obtain ⟨front', segment, closed', path', decoded⟩ := addresses.path
    rw [closed, Url.Path.segments.injEq, List.append_cancel_right_eq] at closed'
    subst closed'
    rw [path, Url.Path.segments.injEq] at path'
    exact literal_of_path nonempty decoded path'
  · intro literal
    obtain ⟨segments, unasked⟩ := Target.segmentsOf_parts nonempty literal.unmarked literal.ended
    rw [← endpointOf_eq named] at unasked
    obtain ⟨request', sent', query⟩ := query_of_ofCall closed unasked
    rw [sent] at sent'
    cases sent'
    refine ⟨⟨front, Url.segmentText target.id.toList, closed, ?_, ?_⟩, query⟩
    · rw [path, segments, Target.addSegments_parts literal.undotted]
    · rw [Text.ofUtf8?_eq_some_iff, Url.percentDecode_segmentText,
        Text.percentDecode_of_plain literal.uncoded]

/-- One path addresses one target. -/
theorem Addresses.target_eq {other : Call} {rival : Target} {url url' : Url}
    (addresses : Addresses base call target url) (again : Addresses base other rival url')
    (same : url'.path = url.path) : rival = target := by
  obtain ⟨front, segment, closed, path, decoded⟩ := addresses.path
  obtain ⟨front', segment', closed', path', decoded'⟩ := again.path
  rw [closed, Url.Path.segments.injEq, List.append_cancel_right_eq] at closed'
  subst closed'
  rw [path, path', Url.Path.segments.injEq, List.append_cancel_left_eq, List.cons.injEq,
    List.cons.injEq] at same
  obtain ⟨kind, rfl, action⟩ := same
  have id : some rival.id = some target.id := decoded'.symm.trans decoded
  cases rival
  cases target
  cases kind
  cases action
  cases id
  rfl

/-- **What a request addresses.** From a base with a closed path, each call about a service or a
container is sent to who serves the base. It addresses the call's target just when the id is
literal; and then no other target has a request with that path, as long as it is literal too. -/
theorem ofCall_addresses (special : Url.isSpecialScheme base.scheme = true)
    (closed : base.path = .segments (front ++ [""])) (named : targetOf call = some target)
    (nonempty : target.id ≠ "") :
    ∃ request, ofCall base call toAscii = .ok request ∧ request.method = methodOf call ∧
      request.url.scheme = base.scheme ∧ request.url.authority = base.authority ∧
      (Addresses base call target request.url ↔ target.Literal) ∧
      ∀ other rival, targetOf other = some rival → rival.id ≠ "" →
        target.Literal → rival.Literal →
          ∃ request', ofCall base other toAscii = .ok request' ∧
            (request'.url.path = request.url.path → rival = target) := by
  obtain ⟨request, sent, method, scheme, authority, addresses⟩ :=
    exists_request special closed named nonempty
  refine ⟨request, sent, method, scheme, authority, addresses, ?_⟩
  intro other rival named' nonempty' literal literal'
  obtain ⟨request', sent', -, -, -, addresses'⟩ := exists_request special closed named' nonempty'
  exact ⟨request', sent', (addresses.mpr literal).target_eq (addresses'.mpr literal')⟩

private def localBase : Url :=
  ⟨"http", some ⟨"", .ipv4 0x7F000001, some 2375⟩, .segments ["v1.43", ""], none, none⟩

/-- A blank and a letter beyond ASCII are encoded, and the request still addresses the id. -/
theorem ofCall_addresses_encoded :
    ∃ request, ofCall localBase (.removeContainer "ü 1" .forced) = .ok request ∧
      Addresses localBase (.removeContainer "ü 1" .forced) (.container "ü 1") request.url := by
  obtain ⟨request, sent, -, -, -, addresses, -⟩ :=
    @ofCall_addresses (.container "ü 1") ["v1.43"] Url.Domain.canonical? localBase
      (.removeContainer "ü 1" .forced) rfl rfl rfl (by decide)
  have literal : (Target.container "ü 1").Literal := {
    unmarked := by simp [Target.container, Url.marks]
    uncoded := rfl
    undotted := by decide
    ended := by simp [Target.container] }
  exact ⟨request, sent, addresses.mpr literal⟩

/-- A request that is to remove a service removes a container, and two services have one request. -/
theorem ofCall_astray :
    (∃ request, ofCall localBase (.removeService "../containers/c1") = .ok request ∧
      request.line = "DELETE /v1.43/containers/c1" ∧
      ¬ Addresses localBase (.removeService "../containers/c1") (.service "../containers/c1")
        request.url) ∧
      ofCall localBase (.removeService "web\t") = ofCall localBase (.removeService "web") := by
  refine ⟨⟨⟨.delete, { localBase with path := .segments ["v1.43", "containers", "c1"] }⟩, rfl, rfl,
    ?_⟩, rfl⟩
  intro addresses
  obtain ⟨front, segment, closed, path, -⟩ := addresses.path
  obtain rfl : ["v1.43"] = front := List.append_cancel_right (Url.Path.segments.inj closed)
  have parts := Url.Path.segments.inj path
  simp [Target.service] at parts

end ReplicaWatch.Request
