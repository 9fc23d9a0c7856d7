/-
Where a description comes from: it is given itself, or it is kept in a file.
-/

import FilterGraph.Log
import FilterGraph.Options.Format
import FilterGraph.Pipeline.Format

namespace FilterGraph

/-- A description, or the path of a file that holds one. -/
inductive Description where
  | inline (text : String)
  | file (path : String)
  deriving DecidableEq, Repr

/-- The text of a file, or why there is none. -/
def Host.readFile (host : Host) (path : String) : Except Error String :=
  (host.read path).mapError (Error.unreadable path)

namespace Description

/-- A text that begins with an opening brace is a description, anything else a path. -/
def ofArgument (argument : String) : Description :=
  if argument.toList.head? = some '\x7b' then inline argument else file argument

/-- Reads the description, from its file if it has one. -/
def load (description : Description) (host : Host) : Except Error Pipeline :=
  match description with
  | inline text => Pipeline.parse text
  | file path =>
    match host.readFile path with
    | .error error => .error error
    | .ok text => Pipeline.parse text

/-- What is logged while the description is read. -/
def log : Description → List Event
  | inline _ => []
  | file path => [.reading path]

end Description

/-- Reads options from a file. -/
def CommandOptions.load (path : String) (host : Host) : Except Error CommandOptions :=
  match host.readFile path with
  | .error error => .error error
  | .ok text => CommandOptions.parse text

end FilterGraph
