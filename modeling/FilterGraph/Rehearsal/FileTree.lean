/-
Files held in memory. A path is followed from directory to directory, the way a file system does it:
what stands before a slash has to be a directory, also when nothing stands behind it. Around the
tree are the directories that every host has, with the programs in them.

Test support, as told in `Rehearsal.Host`: the library does not depend on it.
-/

import FilterGraph.Host

namespace FilterGraph.Rehearsal

/-- The programs that every host has. Shells differ in whether their `echo` looks for backslashes
without being asked to. -/
inductive Program where
  | succeed
  | fail
  | echo
  | environment
  | shell (escapes : Bool)
  deriving DecidableEq, Repr

/-- A file with its bytes, which may be executable, a program of the host, a link that stands for
the path from its directory, or a directory of named nodes. -/
inductive Node where
  | file (content : ByteArray) (executable : Bool)
  | program (program : Program)
  | link (path : String)
  | directory (entries : List (String × Node))

namespace Node

/-- The named nodes of a directory; any other node has none. -/
def entries : Node → List (String × Node)
  | directory entries => entries
  | _ => []

/-- Puts a node under a name. A directory is not emptied by being made again. -/
def putEntry (name : String) (node : Node) : List (String × Node) → List (String × Node)
  | [] => [(name, node)]
  | (name', node') :: others =>
    if name' = name then
      (name, match node, node' with
        | directory [], directory kept => directory kept
        | node, _ => node) :: others
    else (name', node') :: putEntry name node others

/-- Puts a node at the end of a row of names below a directory, and makes the directories on the way
there. -/
def putBelow (node : Node) : (names : List String) → (parent : Node) → Node
  | [], parent => parent
  | [name], parent => directory (putEntry name node parent.entries)
  | name :: names, parent =>
    let inner := (parent.entries.lookup name).getD (directory [])
    directory (putEntry name (putBelow node names inner) parent.entries)

end Node

/-! ### Around the tree -/

/-- The programs by their names. -/
def programs : List (String × Node) :=
  [("bash", .program (.shell false)), ("dash", .program (.shell true)), ("echo", .program .echo),
    ("env", .program .environment), ("false", .program .fail), ("sh", .program (.shell true)),
    ("true", .program .succeed)]

/-- A directory without anything that is the same on every host. -/
def bare (name : String) : String × Node :=
  (name, .directory [])

/-- The directory of what comes with a host. -/
def installed : Node :=
  .directory [("bin", .directory programs), bare "games", bare "include", bare "lib",
    ("local", .directory [bare "bin", bare "lib", bare "sbin", bare "share"]), bare "sbin",
    bare "share", bare "src"]

/-- The topmost directory of a host, with those of its files that are the same everywhere. -/
def top : Node :=
  .directory [("bin", .link "usr/bin"), bare "boot",
    ("dev", .directory [("null", .file ByteArray.empty false)]),
    ("etc", .directory [("passwd", .file "root:x:0:0:root:/root:/bin/bash\n".toUTF8 false)]),
    bare "home", ("lib", .link "usr/lib"), bare "media", bare "mnt", bare "opt", bare "proc",
    bare "root", bare "run", ("sbin", .link "usr/sbin"), bare "srv", bare "sys", bare "tmp",
    ("usr", installed), bare "var"]

/-- The directories above the tree, the nearest first: the tree is a temporary one. -/
def above : List Node :=
  [.directory [], top]

/-! ### Paths -/

/-- The names between the slashes of a path. -/
def names (path : String) : List String :=
  (path.toList.splitOn '/').map String.ofList

/-- Whether a name leads nowhere else: nothing between two slashes, or a single point. -/
def staysHere (name : String) : Bool :=
  name = "" || name = "."

/-- Puts a node at a path. -/
def Node.put (root : Node) (path : String) (node : Node) : Node :=
  node.putBelow ((names path).filter fun name => !staysHere name) root

/-- The longest name of a node, in bytes. -/
def longestName : Nat := 255

/-- The longest path, in bytes. -/
def longestPath : Nat := 4095

/-- How many links are followed on one path. -/
def mostLinks : Nat := 40

/-- Follows names downwards from a node, given the directories above it, the nearest first. The
topmost one is above itself. -/
def follow (links : Nat) (above : List Node) (node : Node) (names : List String) :
    Except SystemError Node :=
  match names with
  | [] => .ok node
  | name :: names =>
    match node with
    | .directory entries =>
      if staysHere name then follow links above node names
      else if name = ".." then
        match above with
        | [] => follow links [] node names
        | parent :: above => follow links above parent names
      else if longestName < name.utf8ByteSize then .error .nameTooLong
      else
        match entries.lookup name with
        | none => .error .notFound
        | some (.link path) =>
          match links with
          | 0 => .error .tooManyLevels
          | links + 1 => follow links above node (Rehearsal.names path ++ names)
        | some inner => follow links (node :: above) inner names
    | _ => .error .notDirectory
termination_by (links, names.length)

/-- Finds the node at a path. A path that begins with a slash begins at the topmost directory. -/
def Node.find (root : Node) (path : String) : Except SystemError Node :=
  if path.isEmpty then .error .notFound
  else if longestPath < path.utf8ByteSize then .error .nameTooLong
  else if path.toList.head? = some '/' then follow mostLinks [] top (names path)
  else follow mostLinks above root (names path)

/-- Reads the text of a file. A program is no text. -/
def Node.read (root : Node) (path : String) : Except ReadFailure String :=
  if path.contains '\x00' then .error .nulInPath
  else
    match root.find path with
    | .error error => .error (.system error)
    | .ok (.directory _) => .error (.system .isDirectory)
    | .ok (.file content _) =>
      match String.fromUTF8? content with
      | none => .error .notText
      | some text => .ok text
    | .ok _ => .error .notText

end FilterGraph.Rehearsal
