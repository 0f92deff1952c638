import ReplicaWatch.Settings

/-! # Command lines

What an invocation of the program asks for, and why a command line may ask for nothing: it
wants help or the version, or something is wrong with it.
-/

namespace ReplicaWatch

/-- What to do. -/
inductive Command where
  | create (service : String) (flags : WaitFlags)
  | update (service : String) (flags : WaitFlags)
  | teardown (service : String)
  | status (service : String) (rollback : Bool)
  deriving DecidableEq

/-- One invocation of the program. -/
structure Invocation where
  /-- The path of the settings file. -/
  settingsPath : Option String
  /-- The address of the daemon. -/
  host : Option String
  command : Command
  deriving DecidableEq

namespace CommandLine

/-- Why a command line is no invocation. -/
inductive Ending where
  /-- It asks for help. -/
  | help
  /-- It asks for the version. -/
  | version
  /-- It is empty. -/
  | usage
  /-- It names no command. -/
  | missingCommand
  /-- A word that should be a command is none. -/
  | unknownCommand
  /-- It names no service. -/
  | missingService
  /-- A word that cannot stand where it does. -/
  | unknownArgument
  /-- A value that cannot be read. -/
  | malformedValue
  /-- No value, or an empty one, where one is needed. -/
  | missingValue
  /-- An option that is given twice. -/
  | repeated
  /-- A value for an option that takes none. -/
  | needlessValue
  deriving DecidableEq

/-- The name of the program and its version. -/
def versionText : String := "swarmwait 0.1.0"

end CommandLine

end ReplicaWatch
