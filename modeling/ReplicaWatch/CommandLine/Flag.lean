import ReplicaWatch.CommandLine
import ReplicaWatch.Duration.Reading

/-! # Options of the command line

The options, where each of them may stand, and the values they have been given. An option
is given at most once, and its value is checked when it is given.
-/

namespace ReplicaWatch.CommandLine

/-- The options. -/
inductive Flag where
  | config
  | host
  | timeout
  | delay
  | minInterval
  | maxInterval
  | rollback
  | help
  | version
  deriving DecidableEq

namespace Flag

/-- The name of an option behind two hyphens. -/
def long : Flag → String
  | .config => "config"
  | .host => "host"
  | .timeout => "timeout"
  | .delay => "delay"
  | .minInterval => "min-interval"
  | .maxInterval => "max-interval"
  | .rollback => "rollback"
  | .help => "help"
  | .version => "version"

/-- The letter of an option behind one hyphen. -/
def letter? : Flag → Option Char
  | .config => some 'c'
  | .help => some 'h'
  | .version => some 'V'
  | _ => none

/-- Whether an option takes a value. -/
def takesValue : Flag → Bool
  | .rollback => false
  | .help => false
  | .version => false
  | _ => true

end Flag

/-- The names of the commands. -/
inductive CommandName where
  | create
  | update
  | teardown
  | status
  deriving DecidableEq

namespace CommandName

/-- Reads the name of a command. -/
def ofText? : String → Option CommandName
  | "create" => some .create
  | "update" => some .update
  | "teardown" => some .teardown
  | "status" => some .status
  | _ => none

/-- The word that asks for help on commands. -/
def helpWord : String := "help"

/-- Whether a word names a command, or asks for help on one. -/
def isCommandWord (word : String) : Bool := word == helpWord || (ofText? word).isSome

end CommandName

/-- The part of a command line before the name of the command, or the part behind it. -/
inductive Level where
  | program
  | command (name : CommandName)
  deriving DecidableEq

/-- The options that may stand in a part. -/
def Level.flags : Level → List Flag
  | .program => [.config, .host, .help, .version]
  | .command .create => [.timeout, .delay, .minInterval, .maxInterval, .help]
  | .command .update => [.timeout, .delay, .minInterval, .maxInterval, .help]
  | .command .teardown => [.help]
  | .command .status => [.rollback, .help]

/-- What options have been given. -/
structure Given where
  config : Option String
  host : Option String
  wait : WaitFlags
  rollback : Bool
  deriving DecidableEq

namespace Given

/-- No option has been given. -/
def nothing : Given := ⟨none, none, .absent, false⟩

/-- Whether an option has been given. -/
def has (given : Given) : Flag → Bool
  | .config => given.config.isSome
  | .host => given.host.isSome
  | .timeout => given.wait.timeout.isSome
  | .delay => given.wait.delay.isSome
  | .minInterval => given.wait.minInterval.isSome
  | .maxInterval => given.wait.maxInterval.isSome
  | .rollback => given.rollback
  | .help => false
  | .version => false

/-- Reads a length of time. -/
def duration (text : String) : Except Ending Duration :=
  match Duration.read text with
  | .ok d => .ok d
  | .error _ => .error .malformedValue

/-- Reads a path. -/
def path (text : String) : Except Ending String :=
  if text.isEmpty then .error .missingValue else .ok text

/-- Lets an option have a value. -/
def set (given : Given) (flag : Flag) (value : String) : Except Ending Given :=
  let wait := given.wait
  match flag with
  | .config => (path value).map fun config => { given with config := some config }
  | .host => .ok { given with host := some value }
  | .timeout => (duration value).map fun d => { given with wait := { wait with timeout := some d } }
  | .delay => (duration value).map fun d => { given with wait := { wait with delay := some d } }
  | .minInterval =>
    (duration value).map fun d => { given with wait := { wait with minInterval := some d } }
  | .maxInterval =>
    (duration value).map fun d => { given with wait := { wait with maxInterval := some d } }
  | .rollback => .ok { given with rollback := true }
  | .help => .error .help
  | .version => .error .version

/-- Gives an option, which must not have been given before. -/
def give (given : Given) (flag : Flag) (value : String) : Except Ending Given :=
  if given.has flag then .error .repeated else given.set flag value

end Given

end ReplicaWatch.CommandLine
