import SerialLink.Host.Place

/-!
# A host with a working directory

The files and sockets of one working directory, the directories at the root, and a few devices and
files that every system has. The working directory stands in one at the root. A path is followed part
by part; a part that is no directory ends it.
-/

namespace SerialLink

/-- A directory of the tree. -/
inductive Host.Directory where
  | root | devices | settings | working | other
  deriving DecidableEq, Repr

/-- What the working directory holds. -/
structure Host.Tree where
  files : List (String × List UInt8) := []
  sockets : List (String × Peer) := []

namespace Host

/-- A part of a path leads to a directory, to something else or to nothing. -/
inductive Entry where
  | directory (d : Directory)
  | place (p : Place)
  | missing

namespace Tree

/-- The directories at the root besides those of the devices and of the system's settings. -/
def rootDirectories : List String :=
  ["bin", "boot", "home", "lib", "lib64", "media", "mnt", "opt", "proc", "root", "run", "sbin", "srv",
    "sys", "tmp", "usr", "var"]

/-- The devices that take whatever is written to them. -/
def sinks : List String :=
  ["null", "zero", "random", "urandom", "stdin", "stdout", "stderr"]

/-- The directories among the devices. -/
def deviceDirectories : List String := ["fd", "mqueue", "pts", "shm"]

/-- The system's settings, of which nothing but their being there is known. -/
def settingsFiles : List String := ["group", "hostname", "hosts", "passwd"]

/-- What a name leads to. -/
def entry (t : Tree) : Directory → String → Entry
  | .root, name =>
    if name = "dev" then .directory .devices
    else if name = "etc" then .directory .settings
    else if name ∈ rootDirectories then .directory .other
    else .missing
  | .devices, name =>
    if name ∈ sinks then .place (.device false)
    else if name = "full" then .place (.device true)
    else if name = "tty" then .place .detached
    else if name = "ptmx" then .place (.terminal {})
    else if name ∈ deviceDirectories then .directory .other
    else .missing
  | .settings, name => if name ∈ settingsFiles then .place (.file []) else .missing
  | .working, name =>
    match t.files.lookup name with
    | some bytes => .place (.file bytes)
    | none =>
      match t.sockets.lookup name with
      | some peer => .place (.listener peer)
      | none => .missing
  | .other, _ => .missing

/-- The directory above another. -/
def above : Directory → Directory
  | .root | .devices | .settings | .other => .root
  | .working => .other

/-- The longest name of an entry, in bytes. -/
def maxName : Nat := 255

/-- The longest path, in bytes. -/
def maxPath : Nat := 4095

/-- The parts of a text between its slashes, one more than it has of them. -/
def split : List Char → List (List Char)
  | [] => [[]]
  | c :: text =>
    if c = '/' then [] :: split text
    else match split text with
      | [] => [[c]]
      | part :: later => (c :: part) :: later

/-- The parts of a path. -/
def parts (path : String) : List String :=
  (split path.toList).map String.ofList

/-- Follows the parts of a path. -/
def follow (t : Tree) : Directory → List String → Except Errno Place
  | _, [] => .ok .directory
  | d, name :: rest =>
    if name = "" ∨ name = "." then t.follow d rest
    else if name = ".." then t.follow (above d) rest
    else if maxName < name.utf8ByteSize then .error .nameTooLong
    else match t.entry d name with
      | .directory d => t.follow d rest
      | .place p => if rest = [] then .ok p else .error .notDirectory
      | .missing => if rest = [] then .ok .vacant else .error .noEntry

/-- The tree as a host. -/
def host (t : Tree) : Host where
  lookup path :=
    if path = "" then .error .noEntry
    else if maxPath < path.utf8ByteSize then .error .nameTooLong
    else t.follow (if path.toList.head? = some '/' then .root else .working) (parts path)

/-- The tree after a file was written, if its path names one in the working directory. -/
def write (t : Tree) (path : String) (bytes : List UInt8) : Tree :=
  if path.toList.head? = some '/' then t
  else match (parts path).filter fun name => name ≠ "" ∧ name ≠ "." with
    | [name] => { t with files := (name, bytes) :: t.files.filter (·.1 != name) }
    | _ => t

end Tree

end Host

end SerialLink
