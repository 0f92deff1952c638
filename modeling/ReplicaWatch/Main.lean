import ReplicaWatch.CommandLine.Reading
import ReplicaWatch.CommandLine.Running
import ReplicaWatch.Daemon.Client
import ReplicaWatch.Settings.Loading

/-! # The program

Reads the command line, the environment and the settings file, and runs the command. The
program opens no connection of its own: what the daemon replies is read from standard input,
one reply a line, and the command runs on a clock that starts at zero. Without replies the
daemon counts as unreachable.
-/

open ReplicaWatch

/-- The environment of the program. -/
def readEnvironment : IO Environment := do
  let values ← Variable.all.mapM fun name => return (name, ← IO.getEnv name.name)
  return ⟨fun name => (values.lookup name).join.map fun value => value.toUTF8.toList⟩

/-- What is found at a path. -/
def readContents (path : String) : IO FileContents := do
  try
    return .bytes (← IO.FS.readBinFile path).toList
  catch
    | .noFileOrDirectory .. => return .missing
    | .inappropriateType .. => return .directory
    | error => return .unreadable (toString error)

/-- The replies on a stream, up to its end or to a line that is none. -/
partial def readReplies (input : IO.FS.Stream) (replies : List Reply) : IO (List Reply) := do
  match (Json.read? (← input.getLine)).bind Reply.ofJson? with
  | some reply => readReplies input (reply :: replies)
  | none => return replies.reverse

/-- Reports a failure. -/
def fail (message : String) : IO UInt32 := do
  IO.eprintln ("Error: " ++ message)
  return 1

/-- Runs a command with the settings that hold for it. -/
def runCommand (settings : Settings) (command : Command) : IO UInt32 := do
  match settings.daemon.baseUrl with
  | .error error =>
    fail ("Failed to create client for '" ++ settings.daemon.host ++ "': " ++ error.chain)
  | .ok base =>
    let replies ← readReplies (← IO.getStdin) []
    let client := Transport.recorded.client base
    match (command.run settings client .never ⟨0, replies, []⟩).1 with
    | none => fail "no answer"
    | some outcome =>
      for line in outcome.printed do
        IO.println line
      match outcome.failure with
      | some message => fail message
      | none => return 0

/-- What to say about a command line that is no invocation. -/
def explain : CommandLine.Ending → String
  | .missingService => "the service is missing"
  | .unknownCommand => "unrecognized command"
  | .unknownArgument => "unexpected argument"
  | .malformedValue => "invalid value for an option"
  | .missingValue => "a value is required for an option"
  | .repeated => "an option cannot be used multiple times"
  | .needlessValue => "unexpected value for an option"
  | _ => "usage: swarmwait [OPTIONS] create|update|teardown|status <SERVICE>"

/-- Runs the program with the words behind its name. -/
def main (arguments : List String) : IO UInt32 := do
  let environment ← readEnvironment
  match CommandLine.read ("swarmwait" :: arguments) environment with
  | .error .version =>
    IO.println CommandLine.versionText
    return 0
  | .error .help =>
    IO.println (explain .help)
    return 0
  | .error ending =>
    IO.eprintln ("error: " ++ explain ending)
    return 2
  | .ok invocation =>
    let file ← invocation.settingsPath.mapM fun path => return ⟨path, ← readContents path⟩
    match Settings.load file environment with
    | .error error => fail ("Failed to load settings: " ++ error.message)
    | .ok settings => runCommand (settings.withHost invocation.host) invocation.command
