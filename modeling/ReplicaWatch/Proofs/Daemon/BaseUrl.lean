import ReplicaWatch.Daemon.Config
import ReplicaWatch.Daemon.Request
import ReplicaWatch.Proofs.Url.Domains

/-! # The base of all requests

The base URL is the daemon's address, its path closed and followed by one segment for a pinned
version. This holds just when the version is plain (`DaemonConfig.baseUrl_prefixed`): a version is
read as part of a reference, in which a mark or the colon behind a scheme means something else.
Requests that are relative to such a base stay with the daemon, and behind the version. All of this
holds for every reader of domain names that can be relied on.
-/

namespace ReplicaWatch

namespace DaemonConfig

/-- What an address may start with, and the scheme that each is read as. -/
def readAs : List (String × String) := [("tcp", "http"), ("http", "http"), ("https", "https")]

/-- The URL that the text of an address stands for: it is served by the host and the port that the
text names. -/
structure Addressed (toAscii : Url.DomainReader) (host : String) (url : Url) : Prop where
  read : ∃ name rest, (name, url.scheme) ∈ readAs ∧
    (Text.trim host).toList = name.toList ++ ':' :: '/' :: '/' :: rest ∧
      Url.read toAscii url.scheme ('/' :: '/' :: rest) = .ok url ∧
        ∃ authority, url.authority = some authority ∧
          Url.Names url.scheme (Url.authorityText (Url.cleaned ('/' :: '/' :: rest))) authority
  web : url.scheme = "http" ∨ url.scheme = "https"

/-- A version that a reference takes as it is. -/
structure PlainVersion (version : List Char) : Prop where
  unmarked : ∀ c ∈ version, c ∉ Url.marks
  /-- It does not start with a scheme. -/
  unschemed : (version.dropWhile Url.isSchemeChar).head? ≠ some ':'

/-- The URL `base` is `url` with its path closed, and followed by a segment for a pinned version. -/
structure Prefixed (url : Url) (version? : Option (List Char)) (base : Url) : Prop where
  scheme : base.scheme = url.scheme
  authority : base.authority = url.authority
  path : ∃ front, url.path.closed = .segments (front ++ [""]) ∧
    base.path = .segments (front ++
      (version?.map fun version => Url.segmentText ('v' :: version)).toList ++ [""])

end DaemonConfig

/-! ## Addresses -/

/-- A text that starts with another is that one and the rest behind it. -/
theorem Text.eq_of_after? {lead : String} {cs rest : List Char}
    (starts : Text.after? lead cs = some rest) : cs = lead.toList ++ rest := by
  unfold after? at starts
  split at starts
  · next leads =>
    obtain ⟨other, rfl⟩ := List.isPrefixOf_iff_prefix.mp leads
    cases starts
    simp
  · cases starts

namespace Url

/-- A URL that is read behind a scheme of the web has that scheme, and a path of segments. -/
theorem read_web {toAscii : DomainReader} {scheme : String}
    (special : isSpecialScheme scheme = true) {rest : List Char} {url : Url}
    (read : Url.read toAscii scheme rest = .ok url) :
    url.scheme = scheme ∧ ∃ parts, url.path = .segments parts := by
  unfold Url.read readBehindScheme at read
  rw [if_pos special] at read
  refine ⟨scheme_of_readBehindSlashes read, ?_⟩
  obtain ⟨authority, -, read⟩ := bind_eq_ok.mp read
  cases read
  exact ⟨_, rfl⟩

/-- A closed path of segments ends with an empty one. -/
theorem Path.closed_segments (parts : List String) :
    ∃ front, (Path.segments parts).closed = .segments (front ++ [""]) := by
  unfold closed
  dsimp only
  split
  · next last =>
    obtain ⟨front, rfl⟩ := List.getLast?_eq_some_iff.mp last
    exact ⟨front, rfl⟩
  · exact ⟨parts, rfl⟩

end Url

namespace DaemonConfig

variable {toAscii : Url.DomainReader}

/-- An address is read as a URL of the web that stands for it. -/
theorem addressed_of_address (lawful : Url.LawfulDomains toAscii) {host : String} {url : Url}
    (found : address toAscii host = .ok url) :
    Addressed toAscii host url ∧ ∃ parts, url.path = .segments parts := by
  have addressed {name scheme : String} {rest : List Char} (known : (name, scheme) ∈ readAs)
      (special : Url.isSpecialScheme scheme = true) (web : scheme = "http" ∨ scheme = "https")
      (starts : Text.after? (name ++ "://") (Text.trim host).toList = some rest)
      (read : Url.read toAscii scheme ('/' :: '/' :: rest) = .ok url) :
      Addressed toAscii host url ∧ ∃ parts, url.path = .segments parts := by
    have served := Url.names_of_read lawful special read
    obtain ⟨rfl, parts⟩ := Url.read_web special read
    refine ⟨⟨⟨name, rest, known, ?_, read, served⟩, web⟩, parts⟩
    simpa using Text.eq_of_after? starts
  unfold address at found
  dsimp only at found
  split at found
  · next rest starts =>
    split at found
    · next read =>
      cases found
      exact addressed (by decide : ("tcp", "http") ∈ readAs) rfl (.inl rfl) starts read
    · cases found
  · next rest _ starts =>
    split at found
    · next read =>
      cases found
      exact addressed (by decide : ("http", "http") ∈ readAs) rfl (.inl rfl) starts read
    · cases found
  · next rest _ _ starts =>
    split at found
    · next read =>
      cases found
      exact addressed (by decide : ("https", "https") ∈ readAs) rfl (.inr rfl) starts read
    · cases found
  · split at found <;> cases found

/-- What stands behind `tcp://` is read as a URL of the web. -/
theorem address_tcp {host : String} {rest : List Char} {url : Url}
    (starts : Text.after? "tcp://" (Text.trim host).toList = some rest)
    (read : Url.read toAscii "http" ('/' :: '/' :: rest) = .ok url) :
    address toAscii host = .ok url := by
  simp only [address, starts, read]

/-! ## Versions -/

variable {url base : Url} {version : List Char} {front : List String}

/-- The reference of a version names a scheme just when a colon ends its first characters. -/
theorem splitScheme?_pinned (version : List Char) :
    Url.splitScheme? ('v' :: version ++ ['/']) = none ↔
      (version.dropWhile Url.isSchemeChar).head? ≠ some ':' := by
  rw [List.cons_append, Url.splitScheme?_eq_none (by decide), List.dropWhile_append]
  cases version.dropWhile Url.isSchemeChar with
  | nil => decide
  | cons c rest => simp

/-- A base URL is found from an address, and by joining a pinned version to it. -/
theorem baseUrl_cases {config : DaemonConfig} (built : config.baseUrl toAscii = .ok base) :
    ∃ url, address toAscii config.host = .ok url ∧
      (config.pinnedVersion? = none ∧ base = { url with path := url.path.closed } ∨
        ∃ version, config.pinnedVersion? = some version ∧
          Url.join toAscii { url with path := url.path.closed } ('v' :: version ++ ['/']) =
            .ok base) := by
  unfold baseUrl at built
  split at built
  · cases built
  · next url found =>
    refine ⟨url, found, ?_⟩
    dsimp only at built
    split at built
    · next unpinned =>
      cases built
      exact .inl ⟨unpinned, rfl⟩
    · next version pinned =>
      split at built
      · next joined =>
        cases built
        exact .inr ⟨version, pinned, joined⟩
      · cases built

/-- A plain version is one more segment of the path, and nothing else changes. -/
theorem prefixed_of_plain (special : Url.isSpecialScheme url.scheme = true)
    (closed : url.path.closed = .segments (front ++ [""])) (plain : PlainVersion version)
    (joined :
      Url.join toAscii { url with path := url.path.closed } ('v' :: version ++ ['/']) = .ok base) :
    Prefixed url (some version) base := by
  have unmarked : ∀ c ∈ 'v' :: version, c ∉ Url.marks :=
    List.forall_mem_cons.mpr ⟨by decide, plain.unmarked⟩
  obtain ⟨clean, segments⟩ := Url.segmentsOf_closed (by decide) unmarked
  have relative : Url.splitScheme? (Url.cleaned ('v' :: version ++ ['/'])) = none := by
    rw [clean]
    exact (splitScheme?_pinned version).mpr plain.unschemed
  rw [Url.join_relative { url with path := url.path.closed } special closed relative] at joined
  cases joined
  refine ⟨rfl, rfl, front, closed, ?_⟩
  have letter : 'v'.toLower ≠ '.' ∧ 'v'.toLower ≠ '%' := by decide
  rw [segments, List.dropLast_concat, Url.addSegments_closed letter]
  simp

/-- Conversely, when nothing else changes, the version was plain. -/
theorem plain_of_prefixed (special : Url.isSpecialScheme url.scheme = true)
    (web : url.scheme = "http" ∨ url.scheme = "https")
    (joined :
      Url.join toAscii { url with path := url.path.closed } ('v' :: version ++ ['/']) = .ok base)
    (pinned : Prefixed url (some version) base) : PlainVersion version := by
  have printed : 0x20 < 'v'.toNat := by decide
  have relative : Url.splitScheme? (Url.cleaned ('v' :: version ++ ['/'])) = none := by
    cases named : Url.splitScheme? (Url.cleaned ('v' :: version ++ ['/'])) with
    | none => rfl
    | some found =>
      have own := Url.scheme_of_join named joined
      rw [Url.cleaned_closed printed, List.cons_append,
        List.filter_cons_of_pos (by decide)] at named
      have starts := Url.head?_of_splitScheme? named
      rw [← own, pinned.scheme] at starts
      obtain same | same := web <;> rw [same] at starts <;> cases starts
  obtain ⟨front, closed, path⟩ := pinned.path
  have unmarked : ∀ c ∈ 'v' :: version, c ∉ Url.marks := by
    rw [Url.join_relative { url with path := url.path.closed } special closed relative] at joined
    cases joined
    rw [List.dropLast_concat, Url.Path.segments.injEq] at path
    exact Url.unmarked_of_addSegments (path.trans (by simp))
  refine ⟨fun c member => unmarked c (List.mem_cons_of_mem _ member), ?_⟩
  rw [(Url.segmentsOf_closed printed unmarked).1] at relative
  exact (splitScheme?_pinned version).mp relative

end DaemonConfig

/-! ## Requests -/

namespace Request

/-- A slash stands behind the first word of an endpoint, if anything does. -/
theorem relative_endpointOf (call : Call) :
    Url.splitScheme? (Url.cleaned (endpointOf call).toList) = none := by
  have inside {lead : String} {letter : Char} {front : List Char}
      (start : lead.toList = letter :: front) (alpha : letter.isAlpha = true)
      (printed : ∀ c ∈ letter :: front, 0x20 < c.toNat)
      (slash : front.dropWhile Url.isSchemeChar = ['/']) (id : String) :
      Url.splitScheme? (Url.cleaned (lead ++ id).toList) = none := by
    obtain ⟨more, same⟩ := Url.cleaned_append printed id.toList
    rw [String.toList_append, start, same, List.cons_append, Url.splitScheme?_eq_none alpha,
      List.dropWhile_append, slash]
    nofun
  have service := @inside "services/" 's' "ervices/".toList rfl rfl (by simp) rfl
  have container := @inside "containers/" 'c' "ontainers/".toList rfl rfl (by simp) rfl
  cases call with
  | listTasks filter =>
    change Url.splitScheme? (Url.cleaned "tasks".toList) = none
    decide
  | listNodes => decide
  | inspectService id => exact service id
  | removeService id => exact service id
  | removeContainer id options => exact container id
  | waitContainerRemoved id =>
    rw [endpointOf, String.append_assoc]
    exact container (id ++ "/wait")

/-- The segments of a call's endpoint. -/
def segmentsOf (call : Call) : List (List Char) := Url.segmentsOf (endpointOf call).toList

variable {toAscii : Url.DomainReader}

/-- A request goes to who serves the base, and to a path behind the base's. -/
theorem ofCall_of_closed {base : Url} (special : Url.isSpecialScheme base.scheme = true)
    {front : List String} (closed : base.path = .segments (front ++ [""])) (call : Call) :
    ∃ request, ofCall base call toAscii = .ok request ∧ request.method = methodOf call ∧
      request.url.scheme = base.scheme ∧ request.url.authority = base.authority ∧
      request.url.path = .segments (Url.addSegments front (segmentsOf call)) := by
  rw [ofCall, Url.join_relative base special closed (relative_endpointOf call),
    List.dropLast_concat]
  refine ⟨_, rfl, rfl, ?_⟩
  split <;> exact ⟨rfl, rfl, rfl⟩

/-- Where the reference names no query, the parameters are all of it. -/
theorem query_of_ofCall {base : Url} {parts : List String} (path : base.path = .segments parts)
    {call : Call} (unasked : (Url.Tail.split (Url.cleaned (endpointOf call).toList)).query = none) :
    ∃ request, ofCall base call toAscii = .ok request ∧ request.url.query =
      if (parametersOf call).isEmpty then none
      else some (String.ofList (Text.formEncode (parametersOf call))) := by
  have relative := relative_endpointOf call
  obtain ⟨url, joined, query⟩ : ∃ url, base.join toAscii (endpointOf call).toList = .ok url ∧
      url.query = none := by
    simp only [Url.join, relative, Url.readRelative, path]
    exact ⟨_, rfl, by simp only [Url.Tail.queryText, unasked, Option.map_none]⟩
  refine ⟨_, by rw [ofCall, joined], ?_⟩
  dsimp only
  split <;> simp [Url.addQuery, query]

end Request

namespace DaemonConfig

variable {toAscii : Url.DomainReader} {config : DaemonConfig} {base : Url}

private def pinnedTo (host version : String) : DaemonConfig :=
  { forHost host with apiVersion := some version }

private def onPort (host : Url.Host) : Option Url.Authority := some ⟨"", host, some 2375⟩

/-- **The base of all requests.** A base URL stands for the address of the daemon, which is one of
the web's. It has the address's host, and its path closed and followed by a segment for a pinned
version, just when that version is plain. From such a base, all requests go to that host, and behind
the base's path unless they name segments that lead above it. -/
theorem baseUrl_prefixed (lawful : Url.LawfulDomains toAscii)
    (built : config.baseUrl toAscii = .ok base) :
    ∃ url, Addressed toAscii config.host url ∧
      (Prefixed url config.pinnedVersion? base ↔
        ∀ version, config.pinnedVersion? = some version → PlainVersion version) ∧
      (Prefixed url config.pinnedVersion? base →
        base.path.chars.getLast? = some '/' ∧
          ∀ call, ∃ request, Request.ofCall base call toAscii = .ok request ∧
            request.url.scheme = base.scheme ∧ request.url.authority = base.authority ∧
            (Url.staysWithin 0 (Request.segmentsOf call) = true →
              ∃ front more, base.path = .segments (front ++ [""]) ∧
                request.url.path = .segments (front ++ more))) := by
  obtain ⟨url, found, joined⟩ := baseUrl_cases built
  obtain ⟨addressed, parts, path⟩ := addressed_of_address lawful found
  have special : Url.isSpecialScheme url.scheme = true := by
    obtain same | same := addressed.web <;> rw [same] <;> rfl
  obtain ⟨front, closed⟩ := Url.Path.closed_segments parts
  rw [← path] at closed
  refine ⟨url, addressed, ?_, ?_⟩
  · obtain ⟨unpinned, rfl⟩ | ⟨version, pinned, joined⟩ := joined
    · rw [unpinned]
      exact iff_of_true ⟨rfl, rfl, front, closed, by simpa using closed⟩ nofun
    · rw [pinned]
      constructor
      · intro prefixed other same
        cases same
        exact plain_of_prefixed special addressed.web joined prefixed
      · intro plain
        exact prefixed_of_plain special closed (plain version rfl) joined
  · intro pinned
    obtain ⟨front, -, closed⟩ := pinned.path
    refine ⟨by simp [closed, Url.Path.chars], fun call => ?_⟩
    rw [← pinned.scheme] at special
    obtain ⟨request, sent, -, scheme, authority, path⟩ :=
      Request.ofCall_of_closed special closed call
    refine ⟨request, sent, scheme, authority, fun within => ?_⟩
    obtain ⟨more, same⟩ := Url.addSegments_within _ within
    exact ⟨_, more, closed, by rw [path, same]⟩

/-- A host that is named in ASCII, with a path and a query. -/
private theorem address_named (lawful : Url.LawfulDomains toAscii) :
    address toAscii "tcp://Docker.Example:2375/up?x" =
      .ok ⟨"http", onPort (.domain "docker.example"), .segments ["up"], some "x", none⟩ := by
  have ascii : Url.AsciiName "Docker.Example".toList :=
    ⟨by decide, List.all_eq_true.mp rfl, by decide⟩
  have host : Url.readHost toAscii true "Docker.Example".toList = .ok (.domain "docker.example") :=
    (Url.readDomain_ascii lawful ascii).trans rfl
  have authority : Url.readAuthority toAscii "http" "Docker.Example:2375".toList =
      .ok ⟨"", .domain "docker.example", some 2375⟩ := bind_eq_ok.mpr ⟨_, host, rfl⟩
  exact address_tcp rfl (bind_eq_ok.mpr ⟨_, authority, rfl⟩)

/-- A path of the address is kept in front of the version, and its query is dropped. -/
theorem baseUrl_prefixed_up :
    let host := "tcp://Docker.Example:2375/up?x"
    let served := onPort (.domain "docker.example")
    let base : Url := ⟨"http", served, .segments ["up", "v1.43", ""], none, none⟩
    Url.LawfulDomains Url.Domain.canonical? ∧ (pinnedTo host "v1.43").baseUrl = .ok base ∧
      (∃ url, Addressed Url.Domain.canonical? host url ∧ Prefixed url (some "1.43".toList) base) ∧
      ∃ request, Request.ofCall base (.inspectService "web") = .ok request ∧
        request.url.authority = served ∧
        ∃ more, request.url.path = .segments (["up", "v1.43"] ++ more) := by
  intro host served base
  have built : (pinnedTo host "v1.43").baseUrl = .ok base := by
    rw [baseUrl, show (pinnedTo host "v1.43").host = host from rfl, address_named Url.Domain.lawful]
    rfl
  obtain ⟨url, addressed, plain, requests⟩ := baseUrl_prefixed Url.Domain.lawful built
  have usual : PlainVersion "1.43".toList := ⟨by simp [Url.marks], nofun⟩
  have pinned := plain.mpr fun version same => by
    cases same
    exact usual
  obtain ⟨-, requests⟩ := requests pinned
  obtain ⟨request, sent, -, goes, kept⟩ := requests (.inspectService "web")
  obtain ⟨front, more, closed, path⟩ := kept (by decide)
  obtain rfl : ["up", "v1.43"] = front := List.append_cancel_right (Url.Path.segments.inj closed)
  exact ⟨Url.Domain.lawful, built, ⟨url, addressed, pinned⟩, request, sent, goes, more, path⟩

/-- A numeric host, without a path. -/
private theorem address_numeric (lawful : Url.LawfulDomains toAscii) :
    address toAscii "tcp://127.0.0.1:2375" =
      .ok ⟨"http", onPort (.ipv4 0x7F000001), .segments [""], none, none⟩ := by
  have ascii : Url.AsciiName "127.0.0.1".toList :=
    ⟨by decide, List.all_eq_true.mp rfl, by decide⟩
  have host : Url.readHost toAscii true "127.0.0.1".toList = .ok (.ipv4 0x7F000001) :=
    (Url.readDomain_ascii lawful ascii).trans rfl
  have authority : Url.readAuthority toAscii "http" "127.0.0.1:2375".toList =
      .ok ⟨"", .ipv4 0x7F000001, some 2375⟩ := bind_eq_ok.mpr ⟨_, host, rfl⟩
  exact address_tcp rfl (bind_eq_ok.mpr ⟨_, authority, rfl⟩)

/-- A version that names a scheme leads away from the host. Of a version with a question mark in it,
what follows is not in the path. -/
theorem baseUrl_strays :
    let host := "tcp://127.0.0.1:2375"
    (∃ base, (pinnedTo host "1:43").baseUrl = .ok base ∧
      base.scheme = "v1" ∧ base.authority = none ∧
      ∀ url, Addressed Url.Domain.canonical? host url →
        ¬ Prefixed url (some "1:43".toList) base) ∧
    ∃ base, (pinnedTo host "1?x").baseUrl = .ok base ∧
      base.path.text = "/v1" ∧
      ∀ url, Addressed Url.Domain.canonical? host url → ¬ Prefixed url (some "1?x".toList) base := by
  intro host
  have found (version : String) : address Url.Domain.canonical? (pinnedTo host version).host =
      .ok ⟨"http", onPort (.ipv4 0x7F000001), .segments [""], none, none⟩ :=
    address_numeric Url.Domain.lawful
  constructor
  · refine ⟨⟨"v1", none, .unstructured "43/", none, none⟩, ?_, rfl, rfl, ?_⟩
    · rw [baseUrl, found]
      rfl
    · intro url addressed pinned
      have scheme := pinned.scheme
      obtain same | same := addressed.web <;> simp [same] at scheme
  · refine ⟨⟨"http", onPort (.ipv4 0x7F000001), .segments ["v1"], some "x/", none⟩, ?_, rfl, ?_⟩
    · rw [baseUrl, found]
      rfl
    · intro url addressed pinned
      obtain ⟨front, -, path⟩ := pinned.path
      have last := congrArg List.getLast? (Url.Path.segments.inj path)
      rw [List.getLast?_concat] at last
      simp at last

end DaemonConfig

end ReplicaWatch
