import ReplicaWatch.Proofs.Settings.Blank
import ReplicaWatch.Proofs.Settings.Stored
import ReplicaWatch.Proofs.Success

/-! # Layers of settings

What a setting ends up with is said by four layers: the flags of one invocation, the variables of
the environment that are not blank, the file, and the usual settings. Each layer may say something
of each setting (`Layer`), and the topmost one that does is heeded. The one exception is the longest
interval, which the flag for the first interval raises (`Settings.load_layers`).
-/

namespace ReplicaWatch

/-- The settings that someone can choose. -/
inductive Setting where
  | timeout
  | delay
  | minInterval
  | maxInterval
  | host
  | apiVersion
  | requestTimeout
  deriving DecidableEq

namespace Setting

/-- What a setting can be set to. -/
abbrev Value : Setting → Type
  | .host => String
  | .apiVersion => String
  | _ => Duration

/-- Reads a text that a setting is set to. -/
def ofText? : (setting : Setting) → String → Option setting.Value
  | .timeout, text => (Duration.read text).toOption
  | .delay, text => (Duration.read text).toOption
  | .minInterval, text => (Duration.read text).toOption
  | .maxInterval, text => (Duration.read text).toOption
  | .host, text => some text
  | .apiVersion, text => some text
  | .requestTimeout, text => (Duration.read text).toOption

/-- The variable of the environment for a setting. -/
def source : Setting → Variable
  | .timeout => .timeout
  | .delay => .delay
  | .minInterval => .minInterval
  | .maxInterval => .maxInterval
  | .host => .host
  | .apiVersion => .apiVersion
  | .requestTimeout => .requestTimeout

/-- Whether a setting says how the daemon is reached. -/
def isDaemon : Setting → Bool
  | .host => true
  | .apiVersion => true
  | .requestTimeout => true
  | _ => false

/-- The part of a file in which a setting stands. -/
def part (setting : Setting) : String := if setting.isDaemon then "docker" else "converge"

/-- The names of the fields in that part. -/
def partNames (setting : Setting) : List String :=
  if setting.isDaemon then DaemonConfig.fieldNames else ConvergenceConfig.fieldNames

/-- The field for a setting. -/
def field : Setting → String
  | .timeout => "timeout"
  | .delay => "delay"
  | .minInterval => "min_poll_interval"
  | .maxInterval => "max_poll_interval"
  | .host => "host"
  | .apiVersion => "api_version"
  | .requestTimeout => "request_timeout"

/-- The field of a setting is one of its part. -/
theorem field_mem_partNames (setting : Setting) : setting.field ∈ setting.partNames := by
  cases setting <;> decide

end Setting

/-- What each setting is set to, if anything is said of it. -/
abbrev Layer : Type := (setting : Setting) → Option setting.Value

/-- A layer on top of another. -/
def Layer.over (upper lower : Layer) : Layer := fun setting => upper setting <|> lower setting

/-- What a configuration says of how to wait. -/
def ConvergenceConfig.layer (config : ConvergenceConfig) : Layer
  | .timeout => some config.timeout
  | .delay => some config.delay
  | .minInterval => some config.minInterval
  | .maxInterval => some config.maxInterval
  | _ => none

/-- What a configuration says of how to reach the daemon. -/
def DaemonConfig.layer (config : DaemonConfig) : Layer
  | .host => some config.host
  | .apiVersion => config.apiVersion
  | .requestTimeout => some config.requestTimeout
  | _ => none

/-- What settings say. -/
def Settings.layer (settings : Settings) : Layer :=
  settings.convergence.layer.over settings.daemon.layer

/-- What the flags of one invocation say. -/
def WaitFlags.layer (flags : WaitFlags) (host : Option String) : Layer
  | .timeout => flags.timeout
  | .delay => flags.delay
  | .minInterval => flags.minInterval
  | .maxInterval => flags.maxInterval
  | .host => host
  | .apiVersion => none
  | .requestTimeout => none

/-- What the environment says. Blank texts say nothing. -/
def Environment.layer (environment : Environment) : Layer := fun setting =>
  (environment.given? setting.source).bind setting.ofText?

/-- The document in a file. -/
def SettingsFile.document? (file : SettingsFile) : Option Json :=
  file.text.toOption.bind Toml.read?

namespace Settings

/-- What stands for a setting in the file, where there is one. -/
def stored? (file : Option SettingsFile) (setting : Setting) : Option Json :=
  ((file.bind SettingsFile.document?).bind (Json.member? fieldNames setting.part)).bind
    (Json.member? setting.partNames setting.field)

/-- What the file says. -/
def fileLayer (file : Option SettingsFile) : Layer := fun setting =>
  (stored? file setting).bind fun content => content.string?.bind setting.ofText?

end Settings

/-! ## Reading what is given -/

/-- A duration that is given is the one that its text is read as, and no text that is given fails to
be read. -/
theorem Duration.eq_of_given? {text? : Option String} {duration? : Option Duration}
    (read : Duration.given? text? = .ok duration?) :
    duration? = text?.bind (fun text => (Duration.read text).toOption) ∧
      ∀ text, text? = some text → ((Duration.read text).toOption).isSome := by
  cases text? with
  | none =>
    cases read
    exact ⟨rfl, nofun⟩
  | some text =>
    rw [given?] at read
    cases value : Duration.read text with
    | error fault =>
      rw [value] at read
      cases read
    | ok duration =>
      rw [value] at read
      cases read
      refine ⟨by simp [value, Except.toOption], ?_⟩
      rintro _ ⟨⟩
      simp [value, Except.toOption]

/-! ## The file -/

/-- A setting is taken for a duration when it is a text that is read as one. -/
theorem Duration.ofSetting_eq_ok {value : Json} {d : Duration} :
    Duration.ofSetting value = .ok d ↔
      (value.string?.bind fun text => (Duration.read text).toOption) = some d := by
  unfold ofSetting
  cases value.string? with
  | none => exact iff_of_false nofun nofun
  | some text => cases read : Duration.read text <;> simp [read, Except.toOption]

section Fields

variable {setting : Setting} {name : String} {value : Json}

/-- What stands for a setting was read as its value; a version may be left open. -/
inductive Taken (setting : Setting) (content : Json) : Option setting.Value → Prop where
  | read {value : setting.Value} (text : content.string?.bind setting.ofText? = some value) :
      Taken setting content (some value)
  | left (null : content.isNull = true) (version : setting = .apiVersion) :
      Taken setting content none

/-- The field of a setting sets that setting. -/
theorem ConvergenceConfig.setField_own {before after : ConvergenceConfig}
    (inside : setting.isDaemon = false) (set : before.setField setting.field value = .ok after) :
    Taken setting value (after.layer setting) := by
  cases setting with
  | host => cases inside
  | apiVersion => cases inside
  | requestTimeout => cases inside
  | _ =>
    obtain ⟨d, read, rfl⟩ := map_eq_ok.mp set
    exact .read (Duration.ofSetting_eq_ok.mp read)

/-- No other field sets it. -/
theorem ConvergenceConfig.setField_other {before after : ConvergenceConfig}
    (different : name ≠ setting.field) (set : before.setField name value = .ok after) :
    after.layer setting = before.layer setting := by
  unfold setField at set
  split at set
  · obtain ⟨d, -, rfl⟩ := map_eq_ok.mp set
    cases setting with
    | timeout => exact absurd rfl different
    | _ => rfl
  · obtain ⟨d, -, rfl⟩ := map_eq_ok.mp set
    cases setting with
    | delay => exact absurd rfl different
    | _ => rfl
  · obtain ⟨d, -, rfl⟩ := map_eq_ok.mp set
    cases setting with
    | minInterval => exact absurd rfl different
    | _ => rfl
  · obtain ⟨d, -, rfl⟩ := map_eq_ok.mp set
    cases setting with
    | maxInterval => exact absurd rfl different
    | _ => rfl
  · cases set
    rfl

/-- A setting is taken for a text when it is one. -/
theorem textSetting_eq_ok {text : String} :
    value.textSetting = .ok text ↔ value.string? = some text := by
  unfold Json.textSetting
  cases value.string? <;> simp

theorem DaemonConfig.setField_own {before after : DaemonConfig}
    (inside : setting.isDaemon = true) (set : before.setField setting.field value = .ok after) :
    Taken setting value (after.layer setting) := by
  cases setting with
  | host =>
    obtain ⟨text, read, rfl⟩ := map_eq_ok.mp set
    exact .read (by rw [textSetting_eq_ok.mp read]; rfl)
  | apiVersion =>
    change (if value.isNull then _ else _) = _ at set
    split at set
    · next null =>
      cases set
      exact .left null rfl
    · obtain ⟨text, read, rfl⟩ := map_eq_ok.mp set
      exact .read (by rw [textSetting_eq_ok.mp read]; rfl)
  | requestTimeout =>
    obtain ⟨d, read, rfl⟩ := map_eq_ok.mp set
    exact .read (Duration.ofSetting_eq_ok.mp read)
  | _ => cases inside

theorem DaemonConfig.setField_other {before after : DaemonConfig}
    (different : name ≠ setting.field) (set : before.setField name value = .ok after) :
    after.layer setting = before.layer setting := by
  unfold setField at set
  split at set
  · obtain ⟨text, -, rfl⟩ := map_eq_ok.mp set
    cases setting with
    | host => exact absurd rfl different
    | _ => rfl
  · cases setting with
    | apiVersion => exact absurd rfl different
    | _ =>
      split at set
      · cases set
        rfl
      · obtain ⟨text, -, rfl⟩ := map_eq_ok.mp set
        rfl
  · obtain ⟨d, -, rfl⟩ := map_eq_ok.mp set
    cases setting with
    | requestTimeout => exact absurd rfl different
    | _ => rfl
  · cases set
    rfl

end Fields

namespace Settings

variable {setting : Setting} {document : Json} {base : Settings}

/-- What settings say of how the daemon is reached stands in that configuration alone. -/
theorem layer_of_isDaemon (settings : Settings) (inside : setting.isDaemon = true) :
    settings.layer setting = settings.daemon.layer setting := by
  cases setting with
  | host => rfl
  | apiVersion => rfl
  | requestTimeout => rfl
  | _ => cases inside

/-- What settings say of how to wait stands in that configuration alone. -/
theorem layer_of_not_isDaemon (settings : Settings) (outside : setting.isDaemon = false) :
    settings.layer setting = settings.convergence.layer setting := by
  cases setting with
  | host => cases outside
  | apiVersion => cases outside
  | requestTimeout => cases outside
  | _ => rfl

/-- The two parts of a document are read, each as its configuration. -/
theorem parts_of_ofJson (read : ofJson true document = .ok base) :
    ((document.member? fieldNames "converge" = none → base.convergence = .standard) ∧
        ∀ content, document.member? fieldNames "converge" = some content →
          ConvergenceConfig.ofJson true content = .ok base.convergence) ∧
      (document.member? fieldNames "docker" = none → base.daemon = .standard) ∧
        ∀ content, document.member? fieldNames "docker" = some content →
          DaemonConfig.ofJson true content = .ok base.daemon := by
  constructor
  · refine Json.overlay_field "converge" convergence
      (fun content config => ConvergenceConfig.ofJson true content = .ok config) ?_ ?_
      (by decide) (by decide) read
    · intro before content after set
      obtain ⟨config, read, rfl⟩ := map_eq_ok.mp set
      exact read
    · intro before name content after different set
      unfold setField at set
      split at set
      · exact absurd rfl different
      · obtain ⟨config, -, rfl⟩ := map_eq_ok.mp set
        rfl
      · cases set
        rfl
  · refine Json.overlay_field "docker" daemon
      (fun content config => DaemonConfig.ofJson true content = .ok config) ?_ ?_
      (by decide) (by decide) read
    · intro before content after set
      obtain ⟨config, read, rfl⟩ := map_eq_ok.mp set
      exact read
    · intro before name content after different set
      unfold setField at set
      split at set
      · obtain ⟨config, -, rfl⟩ := map_eq_ok.mp set
        rfl
      · exact absurd rfl different
      · cases set
        rfl

/-- Settings that are read from a document hold what stands in it, and are as usual else. -/
theorem layer_of_ofJson (read : ofJson true document = .ok base) (setting : Setting) :
    let stored? := (document.member? fieldNames setting.part).bind
      (Json.member? setting.partNames setting.field)
    (stored? = none → base.layer setting = standard.layer setting) ∧
      ∀ content, stored? = some content → Taken setting content (base.layer setting) := by
  obtain ⟨⟨unwaited, waited⟩, unreached, reached⟩ := parts_of_ofJson read
  have member := setting.field_mem_partNames
  cases inside : setting.isDaemon with
  | false =>
    have part : setting.part = "converge" := by simp [Setting.part, inside]
    have names : setting.partNames = ConvergenceConfig.fieldNames := by
      simp [Setting.partNames, inside]
    rw [base.layer_of_not_isDaemon inside, standard.layer_of_not_isDaemon inside, part, names]
    cases found : document.member? fieldNames "converge" with
    | none =>
      rw [unwaited found]
      exact ⟨fun _ => rfl, fun _ stored => nomatch stored⟩
    | some content =>
      exact Json.overlay_field setting.field (fun config => config.layer setting) (Taken setting)
        (fun _ _ _ => ConvergenceConfig.setField_own inside)
        (fun _ _ _ _ => ConvergenceConfig.setField_other) (by decide) (names ▸ member)
        (waited content found)
  | true =>
    have part : setting.part = "docker" := by simp [Setting.part, inside]
    have names : setting.partNames = DaemonConfig.fieldNames := by
      simp [Setting.partNames, inside]
    rw [base.layer_of_isDaemon inside, standard.layer_of_isDaemon inside, part, names]
    cases found : document.member? fieldNames "docker" with
    | none =>
      rw [unreached found]
      exact ⟨fun _ => rfl, fun _ stored => nomatch stored⟩
    | some content =>
      exact Json.overlay_field setting.field (fun config => config.layer setting) (Taken setting)
        (fun _ _ _ => DaemonConfig.setField_own inside)
        (fun _ _ _ _ => DaemonConfig.setField_other) (by decide) (names ▸ member)
        (reached content found)

/-- Settings that are read from a file are those of the document in it. -/
theorem document_of_ofFile {file : SettingsFile} (read : ofFile (some file) = .ok base) :
    ∃ document, file.document? = some document ∧ ofJson true document = .ok base := by
  simp only [ofFile, SettingsFile.read] at read
  split at read
  · cases read
  · next text found =>
    rw [mapError_eq_ok, ofToml] at read
    split at read
    · cases read
    · next document parsed =>
      refine ⟨document, ?_, read⟩
      simp [SettingsFile.document?, found, Except.toOption, parsed]

/-- Settings from a file are what the file says, and as usual else. All that stands in it for a
setting was read. -/
theorem layer_of_ofFile {file : Option SettingsFile} (read : ofFile file = .ok base)
    (setting : Setting) :
    base.layer setting = (fileLayer file).over standard.layer setting ∧
      ∀ content, stored? file setting = some content →
        content.isNull = true ∨ (content.string?.bind setting.ofText?).isSome := by
  cases file with
  | none =>
    cases read
    exact ⟨rfl, nofun⟩
  | some file =>
    obtain ⟨document, found, read⟩ := document_of_ofFile read
    have stood : stored? (some file) setting =
        (document.member? fieldNames setting.part).bind
          (Json.member? setting.partNames setting.field) := by
      rw [stored?, Option.bind_some, found, Option.bind_some]
    obtain ⟨unsaid, taken⟩ := layer_of_ofJson read setting
    rw [← stood] at unsaid taken
    cases content? : stored? (some file) setting with
    | none =>
      have nothing : fileLayer (some file) setting = none := by rw [fileLayer, content?]; rfl
      refine ⟨?_, nofun⟩
      rw [unsaid content?, Layer.over, nothing]
      rfl
    | some content =>
      have said : fileLayer (some file) setting = content.string?.bind setting.ofText? := by
        rw [fileLayer, content?]
        rfl
      have taken := taken content content?
      rw [Layer.over, said]
      generalize base.layer setting = held at taken ⊢
      cases taken with
      | read text =>
        rw [text]
        refine ⟨rfl, ?_⟩
        rintro _ ⟨⟩
        exact .inr (by rw [text]; rfl)
      | left null version =>
        subst version
        cases content with
        | null => exact ⟨rfl, by rintro _ ⟨⟩; exact .inl rfl⟩
        | _ => cases null

end Settings

/-! ## The environment -/

/-- A value with a default is the first of the two that is there. -/
theorem some_getD {α : Type} (upper : Option α) (lower : α) :
    some (upper.getD lower) = (upper <|> some lower) := by
  cases upper <;> rfl

namespace Environment

variable {environment : Environment} {setting : Setting}

/-- A text that is read as a duration is not blank. -/
theorem given?_eq_text? {name : Variable} {d : Option Duration}
    (read : Duration.given? (environment.text? name) = .ok d) :
    environment.given? name = environment.text? name := by
  unfold given?
  cases set : environment.text? name with
  | none => rfl
  | some text =>
    cases blank : Text.isBlankText text with
    | false => simp [blank]
    | true =>
      rw [set, Duration.given?, Duration.read_of_blank blank] at read
      cases read

/-- The settings of how to wait, under the environment. -/
theorem layer_of_convergence {config under : ConvergenceConfig}
    (read : config.underEnvironment environment = .ok under) (outside : setting.isDaemon = false) :
    under.layer setting = environment.layer.over config.layer setting ∧
      ∀ text, environment.given? setting.source = some text → (setting.ofText? text).isSome := by
  obtain ⟨timeout, readTimeout, read⟩ := bind_eq_ok.mp read
  obtain ⟨delay, readDelay, read⟩ := bind_eq_ok.mp read
  obtain ⟨minInterval, readMinInterval, read⟩ := bind_eq_ok.mp read
  obtain ⟨maxInterval, readMaxInterval, read⟩ := bind_eq_ok.mp read
  cases read
  cases setting with
  | timeout =>
    obtain ⟨rfl, readable⟩ := Duration.eq_of_given? readTimeout
    exact ⟨some_getD _ _, readable⟩
  | delay =>
    obtain ⟨rfl, readable⟩ := Duration.eq_of_given? readDelay
    exact ⟨some_getD _ _, readable⟩
  | minInterval =>
    obtain ⟨rfl, readable⟩ := Duration.eq_of_given? readMinInterval
    exact ⟨some_getD _ _, readable⟩
  | maxInterval =>
    obtain ⟨rfl, readable⟩ := Duration.eq_of_given? readMaxInterval
    exact ⟨some_getD _ _, readable⟩
  | _ => cases outside

/-- The settings of how to reach the daemon, under the environment. -/
theorem layer_of_daemon {config under : DaemonConfig}
    (read : config.underEnvironment environment = .ok under) (inside : setting.isDaemon = true) :
    under.layer setting = environment.layer.over config.layer setting ∧
      ∀ text, environment.given? setting.source = some text → (setting.ofText? text).isSome := by
  obtain ⟨requestTimeout, readTimeout, read⟩ := bind_eq_ok.mp read
  cases read
  cases setting with
  | host =>
    have said : environment.layer .host = environment.given? .host := Option.bind_fun_some _
    refine ⟨?_, fun _ _ => rfl⟩
    rw [Layer.over, said]
    exact some_getD _ _
  | apiVersion =>
    have said : environment.layer .apiVersion = environment.given? .apiVersion :=
      Option.bind_fun_some _
    refine ⟨?_, fun _ _ => rfl⟩
    rw [Layer.over, said]
    rfl
  | requestTimeout =>
    rw [← given?_eq_text? readTimeout] at readTimeout
    obtain ⟨rfl, readable⟩ := Duration.eq_of_given? readTimeout
    exact ⟨some_getD _ _, readable⟩
  | _ => cases inside

end Environment

namespace Settings

/-- Settings under the environment are what it says, and as they were else. All that it says was
read. -/
theorem layer_of_underEnvironment {environment : Environment} {base settings : Settings}
    (read : base.underEnvironment environment = .ok settings) (setting : Setting) :
    settings.layer setting = environment.layer.over base.layer setting ∧
      ∀ text, environment.given? setting.source = some text → (setting.ofText? text).isSome := by
  obtain ⟨convergence, waited, read⟩ := bind_eq_ok.mp read
  obtain ⟨daemon, reached, read⟩ := bind_eq_ok.mp read
  cases read
  cases inside : setting.isDaemon with
  | false =>
    rw [layer_of_not_isDaemon _ inside, Layer.over, base.layer_of_not_isDaemon inside]
    exact Environment.layer_of_convergence (mapError_eq_ok.mp waited) inside
  | true =>
    rw [layer_of_isDaemon _ inside, Layer.over, base.layer_of_isDaemon inside]
    exact Environment.layer_of_daemon (mapError_eq_ok.mp reached) inside

/-! ## The flags -/

/-- The settings of one invocation. -/
def told (settings : Settings) (host : Option String) (flags : WaitFlags) : Settings :=
  ⟨(settings.withHost host).convergenceFor flags, (settings.withHost host).daemon⟩

/-- For a setting other than the longest interval, the flags are one more layer. -/
theorem layer_told (settings : Settings) (host : Option String) (flags : WaitFlags)
    {setting : Setting} (other : setting ≠ .maxInterval) :
    (settings.told host flags).layer setting =
      (flags.layer host).over settings.layer setting := by
  obtain ⟨timeout, delay, minInterval, maxInterval⟩ := flags
  cases setting with
  | maxInterval => exact absurd rfl other
  | timeout => cases minInterval <;> exact some_getD _ _
  | delay => cases minInterval <;> exact some_getD _ _
  | minInterval => cases minInterval <;> rfl
  | host => exact some_getD _ _
  | apiVersion => rfl
  | requestTimeout => rfl

/-- The longest interval is that of its flag, or else the one that was set, raised to the shortest
that is given. -/
theorem maxInterval_told (settings : Settings) (host : Option String) (flags : WaitFlags) :
    (settings.told host flags).layer .maxInterval =
      (flags.maxInterval <|> (settings.layer .maxInterval).map fun longest =>
        flags.minInterval.elim longest (max longest)) := by
  obtain ⟨timeout, delay, minInterval, maxInterval⟩ := flags
  cases minInterval <;> exact some_getD _ _

/-- **Layers of settings.** Let settings load from a file, or from none, under an environment. In
one invocation each setting is what the topmost layer says that says anything of it: its flag, its
variable of the environment unless that is blank, the file, the usual settings. Only the longest
interval is more: where its own flag is not given, the flag for the first interval raises what the
lower layers say. All that the environment and the file say was read. -/
theorem load_layers {file : Option SettingsFile} {environment : Environment} {settings : Settings}
    (loaded : load file environment = .ok settings) (host : Option String) (flags : WaitFlags) :
    let below := environment.layer.over ((fileLayer file).over standard.layer)
    (∀ setting, setting ≠ .maxInterval →
        (settings.told host flags).layer setting = (flags.layer host).over below setting) ∧
      (settings.told host flags).layer .maxInterval =
        (flags.maxInterval <|> (below .maxInterval).map fun longest =>
          flags.minInterval.elim longest (max longest)) ∧
      ∀ setting : Setting,
        (∀ text, environment.given? setting.source = some text →
          (setting.ofText? text).isSome) ∧
        ∀ content, stored? file setting = some content →
          content.isNull = true ∨ (content.string?.bind setting.ofText?).isSome := by
  obtain ⟨base, read, loaded⟩ := bind_eq_ok.mp loaded
  rw [mapError_eq_ok] at read
  have same : settings.layer = environment.layer.over ((fileLayer file).over standard.layer) := by
    funext setting
    rw [(layer_of_underEnvironment loaded setting).1, Layer.over, (layer_of_ofFile read setting).1]
    rfl
  rw [← same]
  refine ⟨fun setting => settings.layer_told host flags, settings.maxInterval_told host flags,
    fun setting => ⟨(layer_of_underEnvironment loaded setting).2, (layer_of_ofFile read setting).2⟩⟩

private def drawer : SettingsFile where
  path := "settings.toml"
  contents := .bytes <|
    "[converge]\ntimeout=\"1m\"\n[docker]\nhost=\"tcp://a:1\"".toList.flatMap
      String.utf8EncodeChar

/-- A delay of `0` and a blank host. -/
private def surroundings : Environment :=
  ⟨fun name =>
    match name with
    | .delay => some [0x30]
    | .host => some [0x20]
    | _ => none⟩

private def laid : Settings where
  convergence := { ConvergenceConfig.standard with timeout := .ofSeconds 60, delay := .zero }
  daemon := .forHost "tcp://a:1"

private def raising : WaitFlags := { WaitFlags.absent with minInterval := some (.ofSeconds 20) }

theorem load_layers_raised :
    load (some drawer) surroundings = .ok laid ∧
      (laid.told none raising).layer .timeout = some (.ofSeconds 60) ∧
      (laid.told none raising).layer .delay = some .zero ∧
      (laid.told none raising).layer .host = some "tcp://a:1" ∧
      (laid.told none raising).layer .maxInterval = some (.ofSeconds 20) := by
  have loaded : load (some drawer) surroundings = .ok laid := by decide +kernel
  obtain ⟨settled, longest, -⟩ := load_layers loaded none raising
  refine ⟨loaded, (settled .timeout nofun).trans ?_, (settled .delay nofun).trans ?_,
    (settled .host nofun).trans ?_, longest.trans ?_⟩
  · decide +kernel
  · rfl
  · decide +kernel
  · decide +kernel

end Settings

end ReplicaWatch
