import ReplicaWatch.CommandLine.Flag
import ReplicaWatch.Text.Blank

/-! # Scanning a command line

The words of one part of a command line are taken one after another. An option whose value
is the next word is *pending*: it is given only when the next option or operand comes, or
the words end, so that what is wrong with its value may be reported after what is wrong
with the shape of a later word. Two hyphens on their own end the options.
-/

namespace ReplicaWatch.CommandLine

/-- The shape of a word. -/
inductive Word where
  /-- Two hyphens on their own. -/
  | separator
  /-- Two hyphens before a name, and perhaps a value behind an equals sign. -/
  | long (name : String) (value : Option String)
  /-- One hyphen before letters. -/
  | letters (cs : List Char)
  /-- Any other word. -/
  | plain (text : String)
  deriving DecidableEq

/-- The shape of a word. -/
def Word.ofText (word : String) : Word :=
  match word.toList with
  | ['-', '-'] => .separator
  | '-' :: '-' :: rest =>
    .long (String.ofList (rest.takeWhile (· != '=')))
      ((rest.dropWhile (· != '=')).tail?.map String.ofList)
  | '-' :: c :: rest => .letters (c :: rest)
  | _ => .plain word

/-- An option that was named, with its value if that was found already. -/
structure Pending where
  flag : Flag
  value : Option String
  deriving DecidableEq

/-- How far a part of a command line has been scanned. -/
structure Scan where
  given : Given
  pending : Option Pending
  /-- Whether two hyphens ended the options. -/
  trailing : Bool
  service : Option String
  deriving DecidableEq

namespace Scan

/-- Nothing has been scanned. -/
def start : Scan := ⟨.nothing, none, false, none⟩

/-- The option that takes the next word as its value. -/
def awaiting? (scan : Scan) : Option Flag :=
  match scan.trailing, scan.pending with
  | false, some ⟨flag, none⟩ => some flag
  | _, _ => none

/-- Gives the pending option. -/
def settle (scan : Scan) : Except Ending Scan :=
  match scan.pending with
  | none => .ok scan
  | some ⟨_, none⟩ => .error .missingValue
  | some ⟨flag, some value⟩ =>
    (scan.given.give flag value).map fun given => { scan with given, pending := none }

/-- Gives an option behind the pending one. -/
def giveNext (scan : Scan) (flag : Flag) (value : String) : Except Ending Scan := do
  let scan ← scan.settle
  let given ← scan.given.give flag value
  return { scan with given }

/-- Lets an option wait for its value. -/
def await (scan : Scan) (flag : Flag) : Except Ending Scan :=
  scan.settle.map fun scan => { scan with pending := some ⟨flag, none⟩ }

/-- Takes an option by its name. -/
def takeLong (level : Level) (scan : Scan) (name : String) (value : Option String) :
    Except Ending Scan :=
  match level.flags.find? fun flag => flag.long == name with
  | none => .error .unknownArgument
  | some flag =>
    match flag.takesValue, value with
    | true, some value => scan.giveNext flag value
    | true, none => scan.await flag
    | false, some _ => .error .needlessValue
    | false, none => scan.giveNext flag ""

/-- Takes options by their letters; what follows the letter of an option that takes a value
is that value, with or without an equals sign before it. -/
def takeLetters (level : Level) (scan : Scan) : List Char → Except Ending Scan
  | [] => .ok scan
  | letter :: rest =>
    match level.flags.find? fun flag => flag.letter? == some letter with
    | none => .error .unknownArgument
    | some flag =>
      if flag.takesValue then
        match rest with
        | [] => scan.await flag
        | '=' :: value => scan.giveNext flag (String.ofList value)
        | value => scan.giveNext flag (String.ofList value)
      else do
        let scan ← scan.giveNext flag ""
        takeLetters level scan rest

/-- Takes a word that is neither an option nor the value of one. -/
def takeOperand (level : Level) (scan : Scan) (word : String) : Except Ending Scan :=
  match level with
  | .command _ =>
    match scan.service with
    | some _ => .error .unknownArgument
    | none => scan.settle.map fun scan => { scan with service := some word }
  | .program =>
    if scan.trailing && CommandName.isCommandWord word then .error .unknownArgument
    else .error .unknownCommand

/-- Takes one word. -/
def step (level : Level) (scan : Scan) (word : String) : Except Ending Scan :=
  if scan.trailing then
    scan.takeOperand level word
  else
    match Word.ofText word with
    | .separator => .ok { scan with trailing := true }
    | .long name value => scan.takeLong level name value
    | .letters cs => scan.takeLetters level cs
    | .plain text =>
      match scan.awaiting? with
      | some flag => .ok { scan with pending := some ⟨flag, some text⟩ }
      | none => scan.takeOperand level text

end Scan

end ReplicaWatch.CommandLine
