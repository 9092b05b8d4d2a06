import SecretRefs.Command.Arguments
import SecretRefs.Command.Reports
import SecretRefs.Connect.Shared
import SecretRefs.Settings.Loading
import SecretRefs.Settings.Rendering

/-!
# Running command lines

From the words of a command line to what is printed. Settings are loaded first, then
the client is made, and then the task is carried out by exchanges with the server.
-/

namespace SecretRefs.Command

/-- What the program leaves to libraries. -/
structure Libraries where
  /-- What is said of a text that is not JSON. -/
  complaint : String → String
  http : Connect.HttpLibrary

/-- The version of the program. -/
def version : String := "0.1.0"

/-- How a command line ends. -/
inductive Ending where
  /-- The text of the task. -/
  | done (text : String)
  /-- The task with this label failed. -/
  | failed (label : String) (failure : Failure)
  /-- The settings cannot be used. -/
  | unusable (faults : List Settings.Fault)
  /-- No task is asked for. -/
  | diverted (diversion : Diversion)

/-- What a task is called in messages. -/
def Task.label : Task → String
  | .test => "connection"
  | .read .. => "read"
  | .list _ => "list"
  | .resolve _ => "resolve"
  | .write .. => "write"

/-- A task as a session with a store. Where it names no vault, field or category, those
of the settings are meant. -/
def Task.session (task : Task) (complaint : String → String) (store : String) (files : Files)
    (fallbacks : FallbackSettings) (colour : Bool) : Session String :=
  match task with
  | .test => showConnection colour
  | .read item vault field =>
    showSecret (vault.getD fallbacks.vault) item (field.getD fallbacks.field)
  | .list vault => showItems (vault.getD fallbacks.vault)
  | .resolve file => showResolution complaint store files file
  | .write item value vault field category =>
    storeSecret
      { vault := vault.getD fallbacks.vault
        item
        field := field.getD fallbacks.field
        value
        category := (category.map fun name => Category.ofName (Text.upper name)).getD
          fallbacks.category }

/-- A dialogue with a server. -/
abbrev Remote (α : Type) : Type :=
  Dialogue Connect.Request (fun _ => Option Connect.Response) Event α

/-- What the client calls its store. -/
def storeName : String := "connect"

/-- Carries out a task with settings. -/
def carryOut (libraries : Libraries) (host : Host) (settings : Settings) (colour : Bool)
    (task : Task) : Remote Ending :=
  let (outcome, events, _) :=
    Connect.SharedClient.get ⟨host.files, host.home, settings.store, libraries.http⟩ none
  let work : Remote Ending :=
    match outcome with
    | .error failure => .done (.failed task.label failure)
    | .ok client =>
      let session :=
        (task.session libraries.complaint storeName host.files settings.fallbacks colour).run
      (session.interpret client.perform).bind fun result =>
        .done <|
          match result with
          | .ok text => .done text
          | .error failure => .failed task.label failure
  events.foldr Dialogue.note work

/-- Runs a command line. -/
def run (libraries : Libraries) (host : Host) (terminal : Bool) (words : List String) :
    Remote Ending :=
  match Arguments.read words with
  | .error diversion => .done (.diverted diversion)
  | .ok invocation =>
    match Settings.load host invocation.settingsFile with
    | .error faults => .done (.unusable faults)
    | .ok settings =>
      carryOut libraries host settings (terminal && !invocation.plain) invocation.task

/-- The paths that a task with settings looks at. -/
def Task.lookedAt (task : Task) (host : Host) (settings : Settings) : List String :=
  let token := settings.store.expandedTokenPath host.home
  match task with
  | .resolve file => [token, file]
  | _ => [token]

/-- A summary of the command line. -/
def usage : String :=
  "Usage: opref [--config PATH] [--plain] COMMAND\n\n" ++
    "  test\n" ++
    "  read ITEM [-v VAULT] [-f FIELD]\n" ++
    "  list [-v VAULT]\n" ++
    "  resolve FILE\n" ++
    "  write ITEM --value VALUE [-v VAULT] [-f FIELD] [-c CATEGORY]\n"

namespace Ending

/-- The exit code of an ending. -/
def exitCode : Ending → Nat
  | .done _ => 0
  | .failed .. => 1
  | .unusable _ => 1
  | .diverted .misuse => 2
  | .diverted _ => 0

/-- The text on the output. -/
def output : Ending → String
  | .done text => text
  | .diverted .version => "opref " ++ version ++ "\n"
  | .diverted .help => usage
  | _ => ""

/-- The text on the error output. -/
def errorOutput (colour : Bool) : Ending → String
  | .failed label failure =>
    failureMark colour ++ " " ++ label ++ " failed: " ++ failure.describe ++ "\n"
  | .unusable faults => Settings.Rendering.faults faults
  | .diverted .misuse => usage
  | _ => ""

end Ending

end SecretRefs.Command
