import SecretRefs.Command.Run
import SecretRefs.Connect.Http
import Std.Async.DNS
import Std.Internal.UV.System
import Std.Async.TCP

/-!
# The program

The outermost layer: it reads the files and variables that a command line is about,
carries out its exchanges over the network, and prints how it ends. Connections are
not encrypted; a server that asks for encryption cannot be reached.
-/

namespace SecretRefs.Main

open Std.Async Std.Net

/-- What a path leads to. -/
def nodeAt? (path : String) : IO (Option Files.Node) := do
  try
    let path := (← IO.currentDir) / path
    if ← path.isDir then
      pure (some .directory)
    else
      pure (some (.file (← IO.FS.readBinFile path)))
  catch _ =>
    pure none

/-- The nodes on the way that components lead from a place, given by its names from the
last one to the root. -/
def nodesAlong (place : List String) : List String → IO (List (List String × Files.Node))
  | [] => pure []
  | name :: rest => do
    let place :=
      if name.isEmpty || name == "." then place
      else if name == ".." then place.tail
      else name :: place
    let found ← nodeAt? ("/" ++ "/".intercalate place.reverse)
    let others ← nodesAlong place rest
    pure ((found.map fun node => (place.reverse, node)).toList ++ others)

/-- The files that paths lead to, as far as there are any. -/
def filesAt (workingDirectory : String) (paths : List String) : IO Files := do
  let start := Files.names workingDirectory
  let own ← nodesAlong [] start
  let found ← paths.mapM fun path =>
    nodesAlong (if Files.isAbsolute path then [] else start.reverse) (Files.components path)
  pure ⟨own ++ found.flatten, workingDirectory⟩

/-- The addresses of a host. -/
def addressesOf (host : String) : IO (List IPAddr) := do
  match IPv4Addr.ofString host, IPv6Addr.ofString host with
  | some address, _ => pure [.v4 address]
  | none, some address => pure [.v6 address]
  | none, none => pure (← Async.block (DNS.getAddrInfo host "")).toList

/-- An address with a service. -/
def withService (service : Nat) : IPAddr → SocketAddress
  | .v4 address => .v4 ⟨address, service.toUInt16⟩
  | .v6 address => .v6 ⟨address, service.toUInt16⟩

/-- How much is received at once. -/
def receiveLimit : UInt64 := 65536

/-- Everything that is received until the other side closes the connection. -/
partial def receiveAll (socket : TCP.Socket.Client) (received : ByteArray) : Async ByteArray := do
  match ← socket.recv? receiveLimit with
  | none => pure received
  | some bytes => if bytes.isEmpty then pure received else receiveAll socket (received ++ bytes)

/-- The answer to bytes from the first address that can be reached. -/
def exchangeWith (service : Nat) (bytes : ByteArray) : List IPAddr → IO ByteArray
  | [] => throw (.userError "no address can be reached")
  | address :: rest => do
    let attempt : Async ByteArray := do
      let socket ← TCP.Socket.Client.mk
      socket.connect (withService service address)
      socket.send bytes
      receiveAll socket .empty
    try
      attempt.block
    catch fault =>
      if rest.isEmpty then throw fault else exchangeWith service bytes rest

/-- Sends a request over the network. -/
def transport (request : Connect.Request) : IO (Option Connect.Response) := do
  match Connect.Url.parse? request.url with
  | none => pure none
  | some url =>
    if url.secure || !Connect.Http.isSendable request.token then
      pure none
    else
      try
        let addresses ← addressesOf url.host
        let answer ← exchangeWith url.service (Connect.Http.requestBytes url request) addresses
        pure (Connect.Http.response? answer)
      catch _ =>
        pure none

/-- The program needs nothing to be ready for requests, and has no words for what is wrong with a
text that is not JSON. -/
def libraries : Command.Libraries where
  complaint _ := "no JSON document"
  http _ _ := .ok ()

/-- What the program runs on, with the files that a command line is about. -/
def hostFor (words : List String) : IO Host := do
  let workingDirectory := (← IO.currentDir).toString
  let environment := (← Std.Internal.UV.System.osEnviron).toList
  let host (files : Files) : Host := ⟨files, environment, none⟩
  match Command.Arguments.read words with
  | .error _ => pure (host ⟨[], workingDirectory⟩)
  | .ok invocation =>
    let first := Settings.lookedAt (host ⟨[], workingDirectory⟩) invocation.settingsFile
    let known := host (← filesAt workingDirectory first)
    match Settings.load known invocation.settingsFile with
    | .error _ => pure known
    | .ok settings =>
      let second := invocation.task.lookedAt known settings
      pure (host (← filesAt workingDirectory (first ++ second)))

end SecretRefs.Main

open SecretRefs in
/-- Runs the command line and gives its exit code. -/
def main (words : List String) : IO UInt32 := do
  let host ← Main.hostFor words
  let output ← IO.getStdout
  let errors ← IO.getStderr
  let ending ← Dialogue.run Main.transport (fun _ => pure ())
    (Command.run Main.libraries host (← output.isTty) words)
  output.putStr ending.output
  errors.putStr (ending.errorOutput ((← errors.isTty) && !words.contains "--plain"))
  pure ending.exitCode.toUInt32
