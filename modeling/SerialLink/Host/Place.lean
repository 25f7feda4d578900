import SerialLink.Line.Modes
import SerialLink.Text.Utf8
import SerialLink.Transport.Link

/-!
# What paths lead to

A host says what stands at each path. Opening it for reading, for writing, as a line or as a socket
succeeds or fails by what stands there; a path that cannot be a path at all fails before it is
looked up.
-/

namespace SerialLink

/-- What the program on the other side of a socket does once it is connected. -/
structure Peer where
  sends : List UInt8 := []
  hangsUp : Bool := false
  deriving DecidableEq, Repr

/-- What stands at a path. -/
inductive Place where
  | file (bytes : List UInt8)
  | directory
  /-- a device that has nothing to read, and has room for what is written or not -/
  | device (full : Bool)
  /-- a device with nothing behind it -/
  | detached
  | terminal (modes : Line.Modes)
  /-- a socket on which connections are taken -/
  | listener (peer : Peer)
  /-- nothing, where a file may be made -/
  | vacant

/-- What stands at each path. -/
structure Host where
  lookup : String → Except Errno Place

namespace Host

/-- The longest path of a socket. -/
def maxSocketPath : Nat := 107

/-- What stands at a path, which must not hold a NUL. -/
def find (host : Host) (path : String) : Except IoFailure Place :=
  if path.toList.any (·.toNat == 0) then
    .error ⟨.invalidInput, "file name contained an unexpected NUL byte"⟩
  else (host.lookup path).mapError Errno.failure

/-- What reading at a path will meet. A directory can be opened but not read. -/
def feedOf (host : Host) (path : String) : Except IoFailure Feed := do
  match ← host.find path with
  | .file bytes => .ok (Feed.ofBytes bytes)
  | .directory => .ok [.failed Errno.isDirectory.failure]
  | .device _ | .terminal _ => .ok []
  | .listener _ | .detached => .error Errno.noDeviceAddress.failure
  | .vacant => .error Errno.noEntry.failure

/-- The bytes at a path. -/
def bytesOf (host : Host) (path : String) : Except IoFailure (List UInt8) := do
  match ← host.feedOf path with
  | [.failed cause] => .error cause
  | feed => .ok feed.bytes

/-- The text at a path, which must be well formed. -/
def textOf (host : Host) (path : String) : Except IoFailure String := do
  let bytes ← host.bytesOf path
  if Utf8.isValid bytes then .ok (String.ofList (Utf8.decode bytes))
  else .error ⟨.invalidData, "stream did not contain valid UTF-8"⟩

/-- A replay of the capture at a path. -/
def capture (host : Host) (path : String) : Except Transport.Fault Transport :=
  match host.feedOf path with
  | .error cause => .error (.openFailed path cause)
  | .ok feed => .ok (Transport.replay path feed)

/-- A path without the slashes at its end, unless it is nothing else. -/
def withoutEnd (path : String) : String :=
  let bare := (path.toList.reverse.dropWhile (· == '/')).reverse
  if bare = [] then path else String.ofList bare

/-- Opens what stands at a path for writing. A file cannot be made at a path with a slash at its end,
whatever stands there. -/
def openForWriting (host : Host) (path : String) : Except IoFailure Place := do
  match ← host.find (withoutEnd path) with
  | .directory => .error Errno.isDirectory.failure
  | place =>
    if withoutEnd path ≠ path then .error Errno.isDirectory.failure
    else match place with
      | .listener _ | .detached => .error Errno.noDeviceAddress.failure
      | place => .ok place

/-- Opens the device of a configuration as a line and sets its modes. -/
def openLine (host : Host) (c : LineConfig) : Except Transport.Fault Line.Modes := do
  c.validate
  match Line.speedCode? c.baudRate with
  | none => .error (.unsupportedBaudRate c.baudRate)
  | some speed =>
    match host.find c.device with
    | .error cause => .error (.openFailed c.device cause)
    | .ok (.terminal modes) => .ok (modes.configured c speed)
    | .ok (.file _) | .ok (.device _) => .error (.configureFailed c.device Errno.notTerminal.failure)
    | .ok .directory => .error (.openFailed c.device Errno.isDirectory.failure)
    | .ok (.listener _) | .ok .detached =>
      .error (.openFailed c.device Errno.noDeviceAddress.failure)
    | .ok .vacant => .error (.openFailed c.device Errno.noEntry.failure)

/-- Why a path is no path of a socket. -/
def socketPathFailure (path : String) : Option IoFailure :=
  if path.toList.any (·.toNat == 0) then
    some ⟨.invalidInput, "paths must not contain interior null bytes"⟩
  else if maxSocketPath < path.utf8ByteSize then
    some ⟨.invalidInput, "path must be shorter than SUN_LEN"⟩
  else if path = "" then some Errno.invalidArgument.failure
  else none

/-- A link to the peer at a path, with what it sends on the way and gone if it hangs up. -/
def linkTo (path : String) (peer : Peer) : Link where
  near := { Transport.stream path with feed := Feed.ofBytes peer.sends, live := !peer.hangsUp }
  far := Transport.stream path

/-- Connects to the socket at a path. -/
def connect (host : Host) (path : String) : Except Transport.Fault Link :=
  match socketPathFailure path with
  | some cause => .error (.openFailed path cause)
  | none =>
    match host.lookup path with
    | .error e => .error (.openFailed path e.failure)
    | .ok (.listener peer) => .ok (linkTo path peer)
    | .ok .vacant => .error (.openFailed path Errno.noEntry.failure)
    | .ok _ => .error (.openFailed path Errno.connectionRefused.failure)

end Host

end SerialLink
