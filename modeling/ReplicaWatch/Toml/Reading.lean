import ReplicaWatch.Toml.Scalar
import ReplicaWatch.Toml.Table
import ReplicaWatch.Toml.Text

/-! # Reading TOML

A document is a list of lines, of which each is blank, opens a table, or assigns a value
to a name; a value may span lines. `Toml.read?` answers the document as one object whose
fields stand in the order in which they came about.
-/

namespace ReplicaWatch.Toml

/-- A text without the spaces and tabs at its front. -/
def skipSpaces (cs : List Char) : List Char := cs.dropWhile isSpace

/-- Reads the end of a comment's line; nothing, if the comment holds a character that may
not stand there. -/
def skipComment (cs : List Char) : Option (List Char) :=
  match cs with
  | '#' :: rest =>
    let body := rest.takeWhile (· != '\n')
    let body := if body.getLast? = some '\r' then body.dropLast else body
    if body.any isForbidden then none else some (rest.drop body.length)
  | cs => some cs

/-- Reads the end of a line: blanks, a comment, and a line break or the end of the text. -/
def endLine (cs : List Char) : Option (List Char) :=
  match skipComment (skipSpaces cs) with
  | some [] => some []
  | some ('\n' :: rest) => some rest
  | some ('\r' :: '\n' :: rest) => some rest
  | _ => none

/-- A text without the blanks, comments and line breaks at its front. The first argument
bounds the number of lines; the length of the text is enough. -/
def skipBlankLines : Nat → List Char → Option (List Char)
  | 0, cs => some cs
  | bound + 1, cs =>
    match skipComment (skipSpaces cs) with
    | none => none
    | some ('\n' :: rest) => skipBlankLines bound rest
    | some ('\r' :: '\n' :: rest) => skipBlankLines bound rest
    | some rest => some rest

/-- Whether a character may stand in a bare name. -/
def isNameChar (c : Char) : Bool := c.isAlphanum || c == '_' || c == '-'

/-- Reads one part of a name. -/
def readNamePart (cs : List Char) : Option (String × List Char) :=
  match cs with
  | '"' :: rest => (readBasic (cs.length + 1) rest).map fun text => (String.ofList text.1, text.2)
  | '\'' :: rest => (readLiteral rest).map fun text => (String.ofList text.1, text.2)
  | cs =>
    if (cs.takeWhile isNameChar).isEmpty then none
    else some (String.ofList (cs.takeWhile isNameChar), cs.dropWhile isNameChar)

/-- Reads a dotted name. The first argument bounds the number of its parts; the length of
the text is enough. -/
def readName : Nat → List Char → Option (List String × List Char)
  | 0, _ => none
  | bound + 1, cs =>
    match readNamePart (skipSpaces cs) with
    | none => none
    | some (part, rest) =>
      match skipSpaces rest with
      | '.' :: rest => (readName bound rest).map fun name => (part :: name.1, name.2)
      | rest => some ([part], rest)

mutual

/-- Reads a value. The first argument bounds the depth of the reading; twice the length of
the text is enough. -/
def readValue : Nat → List Char → Option (Json × List Char)
  | 0, _ => none
  | bound + 1, cs =>
    match cs with
    | '[' :: rest =>
      match readElements bound rest with
      | some (items, rest) => some (.array items, rest)
      | none => none
    | '\x7b' :: rest =>
      match readInline bound [] rest with
      | some (entries, rest) => some (.object (fieldsToJson entries), rest)
      | none => none
    | c :: rest =>
      if c == '"' || c == '\'' then
        (readString (c :: rest)).map fun text => (.string text.1, text.2)
      else readWord (c :: rest)
    | [] => none

/-- Reads the elements of an array up to its closing bracket. -/
def readElements : Nat → List Char → Option (List Json × List Char)
  | 0, _ => none
  | bound + 1, cs =>
    match skipBlankLines (cs.length + 1) cs with
    | none => none
    | some (']' :: rest) => some ([], rest)
    | some cs =>
      match readValue bound cs with
      | none => none
      | some (item, rest) =>
        match skipBlankLines (rest.length + 1) rest with
        | some (']' :: rest) => some ([item], rest)
        | some (',' :: rest) =>
          (readElements bound rest).map fun items => (item :: items.1, items.2)
        | _ => none

/-- Reads the entries of an inline table up to its closing brace, behind those that it has
already. -/
def readInline : Nat → Entries → List Char → Option (Entries × List Char)
  | 0, _, _ => none
  | bound + 1, entries, cs =>
    match skipBlankLines (cs.length + 1) cs with
    | none => none
    | some ('\x7d' :: rest) => some (entries, rest)
    | some cs =>
      match readName (cs.length + 1) cs with
      | some (name, '=' :: rest) =>
        match readValue bound (skipSpaces rest) with
        | none => none
        | some (value, rest) =>
          match entries.assign value name, skipBlankLines (rest.length + 1) rest with
          | some entries, some ('\x7d' :: rest) => some (entries, rest)
          | some entries, some (',' :: rest) => readInline bound entries rest
          | _, _ => none
      | _ => none

end

/-- A document on the way: its tables so far, and the path of the header that is open. -/
structure Draft where
  entries : Entries
  header : List String

namespace Draft

/-- Opens a table. -/
def openTable (draft : Draft) (path : List String) : Option Draft :=
  (draft.entries.atHeader path.dropLast
    (Entries.openTable (path.getLast?.getD ""))).map fun entries => ⟨entries, path⟩

/-- Opens one more table of a list. -/
def openListed (draft : Draft) (path : List String) : Option Draft :=
  (draft.entries.atHeader path.dropLast
    (Entries.openListed (path.getLast?.getD ""))).map fun entries => ⟨entries, path⟩

/-- Assigns a value to a name in the open table. -/
def assign (draft : Draft) (name : List String) (value : Json) : Option Draft :=
  (draft.entries.atHeader draft.header (Entries.assign value name)).map fun entries =>
    { draft with entries }

/-- Reads a line that is not blank, without its end. -/
def readLine (draft : Draft) (cs : List Char) : Option (Draft × List Char) :=
  match cs with
  | '[' :: '[' :: rest =>
    match readName (rest.length + 1) rest with
    | some (path, ']' :: ']' :: rest) => (draft.openListed path).map (·, rest)
    | _ => none
  | '[' :: rest =>
    match readName (rest.length + 1) rest with
    | some (path, ']' :: rest) => (draft.openTable path).map (·, rest)
    | _ => none
  | cs =>
    match readName (cs.length + 1) cs with
    | some (name, '=' :: rest) =>
      match readValue (2 * rest.length + 2) (skipSpaces rest) with
      | some (value, rest) => (draft.assign name value).map (·, rest)
      | none => none
    | _ => none

/-- Reads lines to the end of a text. The first argument bounds their number; the length of
the text is enough. -/
def readLines : Nat → Draft → List Char → Option Draft
  | 0, _, _ => none
  | bound + 1, draft, cs =>
    match skipBlankLines (cs.length + 1) cs with
    | none => none
    | some [] => some draft
    | some cs =>
      match draft.readLine cs with
      | none => none
      | some (draft, rest) =>
        match endLine rest with
        | none => none
        | some rest => draft.readLines bound rest

end Draft

/-- Reads a document. A byte order mark at its front does not count. -/
def read? (text : String) : Option Json :=
  let cs :=
    match text.toList with
    | '\ufeff' :: rest => rest
    | cs => cs
  (Draft.readLines (cs.length + 1) ⟨[], []⟩ cs).map fun draft =>
    .object (fieldsToJson draft.entries)

end ReplicaWatch.Toml
