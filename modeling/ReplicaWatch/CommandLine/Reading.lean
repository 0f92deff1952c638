import ReplicaWatch.CommandLine.Scan
import ReplicaWatch.Settings.Environment

/-! # Reading command lines

A command line is the name of the program, its options, the name of a command, and that
command's options with the service. The command's part is settled first, then the program's
options. The path of the settings file may come from the environment instead.
-/

namespace ReplicaWatch.CommandLine

/-- Ends a command line that asks for help on the commands whose names follow. -/
def helpOn : List String → Ending
  | [] => .help
  | [word] => if CommandName.isCommandWord word then .help else .unknownCommand
  | _ => .unknownCommand

/-- Scans the program's part, up to the name of the command. -/
def scanProgram (scan : Scan) :
    List String → Except Ending (Scan × Option (CommandName × List String))
  | [] => .ok (scan, none)
  | word :: rest =>
    let free := !scan.trailing && scan.awaiting?.isNone
    if free && word == CommandName.helpWord then
      .error (helpOn rest)
    else
      match if free then CommandName.ofText? word else none with
      | some name => .ok (scan, some (name, rest))
      | none =>
        match scan.step .program word with
        | .ok scan => scanProgram scan rest
        | .error ending => .error ending

/-- The command of some name, for a service and with options. -/
def commandOf (name : CommandName) (service : String) (given : Given) : Command :=
  match name with
  | .create => .create service given.wait
  | .update => .update service given.wait
  | .teardown => .teardown service
  | .status => .status service given.rollback

/-- Reads the part behind the name of a command. -/
def readCommand (name : CommandName) (words : List String) : Except Ending Command := do
  let scan ← words.foldlM (Scan.step (.command name)) .start
  let scan ← scan.settle
  match scan.service with
  | none => .error .missingService
  | some service => return commandOf name service scan.given

/-- The path of the settings file: that of the option, else that of the environment. -/
def settingsPath (given : Given) (environment : Environment) : Except Ending (Option String) :=
  match given.config, environment.text? .settingsFile with
  | some path, _ => .ok (some path)
  | none, some path => (Given.path path).map some
  | none, none => .ok none

/-- Reads a command line, of which the first word is the name of the program. -/
def read (words : List String) (environment : Environment) : Except Ending Invocation := do
  let (scan, command) ← scanProgram .start words.tail
  match command with
  | some (name, rest) =>
    let command ← readCommand name rest
    let scan ← scan.settle
    let settingsPath ← settingsPath scan.given environment
    return { settingsPath, host := scan.given.host, command }
  | none =>
    let scan ← scan.settle
    let path ← settingsPath scan.given environment
    .error (if scan.given = .nothing ∧ path = none then .usage else .missingCommand)

end ReplicaWatch.CommandLine
