import ReplicaWatch.Settings.Environment
import ReplicaWatch.Settings.Form

/-! # Loading settings

Settings are loaded from a file, when one is named, with the environment on top. The file
comes first: what is wrong with it is reported before the environment is looked at.
-/

namespace ReplicaWatch

/-- What is found at a path. -/
inductive FileContents where
  | bytes (content : List UInt8)
  | unreadable (reason : String)
  deriving DecidableEq

namespace FileContents

/-- Nothing is found. -/
def missing : FileContents := .unreadable "No such file or directory (os error 2)"

/-- A directory is found. -/
def directory : FileContents := .unreadable "Is a directory (os error 21)"

end FileContents

/-- A file of settings that someone named. -/
structure SettingsFile where
  path : String
  contents : FileContents
  deriving DecidableEq

namespace SettingsFile

/-- The text of a file. -/
def text (file : SettingsFile) : Except SettingError String :=
  match file.contents with
  | .unreadable reason => .error (.fileUnreadable file.path reason)
  | .bytes content =>
    match Text.ofUtf8? content with
    | some text => .ok text
    | none => .error (.fileUnreadable file.path "stream did not contain valid UTF-8")

/-- The text of a file, read as a document. -/
def read {α : Type} (file : SettingsFile) (document : String → Except DocumentFault α) :
    Except SettingError α :=
  match file.text with
  | .error error => .error error
  | .ok text => (document text).mapError .document

end SettingsFile

/-- Why settings could not be loaded. -/
inductive LoadError where
  | file (error : SettingError)
  | convergence (error : ConvergenceError)
  | daemon (error : ClusterError)
  deriving DecidableEq

/-- The wording of a failure to load settings. -/
def LoadError.message : LoadError → String
  | .file error => error.message
  | .convergence error => error.message
  | .daemon error => error.message

namespace ConvergenceConfig

/-- The usual configuration with the environment on top. -/
def ofEnvironment (environment : Environment) : Except ConvergenceError ConvergenceConfig :=
  (standard.underEnvironment environment).mapError .setting

/-- The configuration in a file of its own. -/
def ofFile (file : SettingsFile) : Except ConvergenceError ConvergenceConfig :=
  (file.read ofToml).mapError .setting

end ConvergenceConfig

/-- The usual configuration with the environment on top. -/
def DaemonConfig.ofEnvironment (environment : Environment) : Except ClusterError DaemonConfig :=
  (standard.underEnvironment environment).mapError .setting

namespace Settings

/-- The settings in a file, or the usual ones where there is none. -/
def ofFile : Option SettingsFile → Except SettingError Settings
  | none => .ok standard
  | some file => file.read ofToml

/-- The settings with the environment on top. -/
def underEnvironment (settings : Settings) (environment : Environment) :
    Except LoadError Settings := do
  let convergence ← (settings.convergence.underEnvironment environment).mapError
    fun error => .convergence (.setting error)
  let daemon ← (settings.daemon.underEnvironment environment).mapError
    fun error => .daemon (.setting error)
  return { convergence, daemon }

/-- The settings in a file, with the environment on top. -/
def load (file : Option SettingsFile) (environment : Environment) : Except LoadError Settings := do
  let settings ← (ofFile file).mapError .file
  settings.underEnvironment environment

end Settings

end ReplicaWatch
