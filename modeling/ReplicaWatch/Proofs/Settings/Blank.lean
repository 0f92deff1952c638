import Mathlib.Data.List.TakeWhile
import ReplicaWatch.Settings.Loading

/-! # Blank variables

A variable of the environment that is set to a blank text counts as unset
(`Environment.given?_without`), but for the bound on requests, which is read whatever it is set to.
So settings load as they do without the blank variable, unless it is that one and they would load
(`Settings.load_without`).
-/

namespace ReplicaWatch

/-- Nothing is left of a blank text. -/
theorem Text.trimChars_of_blank {cs : List Char} (blank : cs.all isBlank = true) :
    trimChars cs = [] := by
  have gone : cs.dropWhile isBlank = [] :=
    List.dropWhile_eq_nil_iff.mpr fun c member => List.all_eq_true.mp blank c member
  rw [trimChars, gone]
  rfl

/-- A blank text is no duration, and is told apart as an empty one. -/
theorem Duration.read_of_blank {text : String} (blank : Text.isBlankText text = true) :
    Duration.read text = .error .empty := by
  rw [Duration.read, Text.trimChars_of_blank blank]
  rfl

namespace Environment

variable {environment : Environment} {name other : Variable} {text : String}

/-- Dropping a variable keeps the others. -/
theorem text?_without (different : other ≠ name) :
    (environment.without name).text? other = environment.text? other := by
  simp [text?, without, different]

/-- A variable that was dropped is not set. -/
theorem text?_without_self : (environment.without name).text? name = none := by
  simp [text?, without]

/-- A blank text is none. -/
theorem given?_of_blank (set : environment.text? name = some text)
    (blank : Text.isBlankText text = true) : environment.given? name = none := by
  simp [given?, set, blank]

/-- Without a blank variable, the same texts are given. -/
theorem given?_without (set : environment.text? name = some text)
    (blank : Text.isBlankText text = true) (other : Variable) :
    (environment.without name).given? other = environment.given? other := by
  by_cases same : other = name
  · subst same
    rw [given?_of_blank set blank, given?, text?_without_self]
    rfl
  · rw [given?, given?, text?_without same]

end Environment

/-- All variables of the wait are ignored when they are blank. -/
theorem ConvergenceConfig.underEnvironment_without {environment : Environment} {name : Variable}
    {text : String} (set : environment.text? name = some text)
    (blank : Text.isBlankText text = true) (config : ConvergenceConfig) :
    config.underEnvironment (environment.without name) = config.underEnvironment environment := by
  simp only [underEnvironment, environment.given?_without set blank]

namespace DaemonConfig

variable {environment : Environment} {name : Variable} {text : String}

/-- And so are those of the daemon, but for one. -/
theorem underEnvironment_without (set : environment.text? name = some text)
    (blank : Text.isBlankText text = true) (other : name ≠ .requestTimeout)
    (config : DaemonConfig) :
    config.underEnvironment (environment.without name) = config.underEnvironment environment := by
  simp only [underEnvironment, environment.given?_without set blank,
    Environment.text?_without other.symm]

/-- The bound on requests is the only variable of these that can be malformed. -/
theorem underEnvironment_without_requestTimeout (environment : Environment)
    (config : DaemonConfig) :
    ∃ under, config.underEnvironment (environment.without .requestTimeout) = .ok under := by
  simp only [underEnvironment, Environment.text?_without_self, Duration.given?]
  exact ⟨_, rfl⟩

/-- The request timeout is read even when it is blank, and then it is refused. -/
theorem underEnvironment_of_blank (set : environment.text? .requestTimeout = some text)
    (blank : Text.isBlankText text = true) (config : DaemonConfig) :
    config.underEnvironment environment =
      .error (.invalidDuration text DurationFault.empty.message) := by
  simp only [underEnvironment, set, Duration.given?, Duration.read_of_blank blank]
  rfl

end DaemonConfig

namespace Settings

variable {environment : Environment} {name : Variable} {text : String}

/-- A load takes nothing from a blank variable, the request timeout apart. -/
theorem load_of_other (set : environment.text? name = some text)
    (blank : Text.isBlankText text = true) (other : name ≠ .requestTimeout)
    (file : Option SettingsFile) :
    load file (environment.without name) = load file environment := by
  simp only [load, underEnvironment, ConvergenceConfig.underEnvironment_without set blank,
    DaemonConfig.underEnvironment_without set blank other]

/-- A blank bound on requests is found when all else has been read. -/
theorem load_of_requestTimeout (set : environment.text? .requestTimeout = some text)
    (blank : Text.isBlankText text = true) (file : Option SettingsFile) :
    load file environment =
      (load file (environment.without .requestTimeout)).bind fun _ =>
        .error (.daemon (.setting (.invalidDuration text DurationFault.empty.message))) := by
  unfold load
  cases ofFile file with
  | error error => rfl
  | ok stored =>
    obtain ⟨daemon, read⟩ := stored.daemon.underEnvironment_without_requestTimeout environment
    change stored.underEnvironment environment =
      (stored.underEnvironment (environment.without .requestTimeout)).bind _
    rw [underEnvironment, underEnvironment, stored.daemon.underEnvironment_of_blank set blank, read,
      ConvergenceConfig.underEnvironment_without set blank]
    cases stored.convergence.underEnvironment environment <;> rfl

/-- An environment in which one variable is set, to a space and a tab. -/
private def blanked (name : Variable) : Environment :=
  ⟨fun other => if other = name then some [0x20, 0x09] else none⟩

/-- **Blank variables.** Settings load as they do without a variable that is set to a blank text,
just when it is not the bound on requests, or when they do not load without it either. Else the
blank bound is reported, as a text that is no duration. -/
theorem load_without (set : environment.text? name = some text)
    (blank : Text.isBlankText text = true) (file : Option SettingsFile) :
    (load file environment = load file (environment.without name) ↔
        name ≠ .requestTimeout ∨
          ∃ error, load file (environment.without name) = .error error) ∧
      (name = .requestTimeout → ∀ settings, load file (environment.without name) = .ok settings →
        load file environment =
          .error (.daemon (.setting (.invalidDuration text DurationFault.empty.message)))) := by
  by_cases bound : name = .requestTimeout
  · subst bound
    rw [load_of_requestTimeout set blank file]
    cases load file (environment.without .requestTimeout) with
    | error error => exact ⟨iff_of_true rfl (.inr ⟨error, rfl⟩), nofun⟩
    | ok settings =>
      refine ⟨iff_of_false nofun ?_, fun _ _ _ => rfl⟩
      rintro (other | ⟨error, ⟨⟩⟩)
      exact other rfl
  · refine ⟨iff_of_true (load_of_other set blank bound file).symm (.inl bound), ?_⟩
    exact fun same => absurd same bound

/-- A blank delay is as good as none. -/
theorem load_without_delay :
    (blanked .delay).text? .delay = some " \t" ∧ Text.isBlankText " \t" = true ∧
      load none (blanked .delay) = load none ((blanked .delay).without .delay) := by
  have set : (blanked .delay).text? .delay = some " \t" := rfl
  have blank : Text.isBlankText " \t" = true := by decide
  obtain ⟨same, -⟩ := load_without set blank none
  exact ⟨set, blank, same.mpr (.inl nofun)⟩

/-- A blank bound on requests stands in the way of settings that load without it. -/
theorem load_refused_of_blank :
    (blanked .requestTimeout).text? .requestTimeout = some " \t" ∧
      Text.isBlankText " \t" = true ∧
      load none (blanked .requestTimeout) ≠
        load none ((blanked .requestTimeout).without .requestTimeout) := by
  have set : (blanked .requestTimeout).text? .requestTimeout = some " \t" := rfl
  have blank : Text.isBlankText " \t" = true := by decide
  refine ⟨set, blank, ?_⟩
  rw [load_of_requestTimeout set blank none]
  exact nofun

end Settings

end ReplicaWatch
