import SecretRefs.Connect.Client
import SecretRefs.Connect.Token
import SecretRefs.Settings

/-!
# The shared client

A program uses one client. It is made when it is asked for and there is none yet;
if that fails, it is tried again the next time. Once there is a client, everyone
gets it, whatever settings they come with.

A client sends its requests by an HTTP library, which may fail to get ready. Why it does is
left open.
-/

namespace SecretRefs.Connect

/-- Whether an HTTP library gets ready for a client, given what the client calls itself and the
seconds it allows for a request. If not, the library says why. -/
abbrev HttpLibrary : Type :=
  (userAgent : String) → (timeout : Nat) → Except String Unit

/-- What a client is made from: settings, where the files they name are, and an HTTP library. -/
structure ClientPlan where
  files : Files
  home : Option String
  settings : StoreSettings
  http : HttpLibrary

namespace ClientPlan

/-- The path of the file with the service token. -/
def tokenPath (plan : ClientPlan) : String :=
  plan.settings.expandedTokenPath plan.home

/-- The token that a plan leads to. -/
def token (plan : ClientPlan) : Except Failure String :=
  Token.load plan.files plan.tokenPath plan.settings.tokenStart

/-- The client of a plan with a token. -/
def clientWith (plan : ClientPlan) (token : String) : Except Failure Client :=
  match plan.http Client.userAgent plan.settings.timeout with
  | .ok () => .ok (Client.ofUrl plan.settings.connectUrl token plan.settings.timeout)
  | .error detail =>
    .error (.store ("failed to build HTTP client: " ++ detail) (some (.http detail)))

/-- The client of a plan. -/
def build (plan : ClientPlan) : Except Failure Client :=
  plan.token.bind plan.clientWith

/-- The event that reports a token that was loaded, even if there is no client for it. -/
def tokenEvents (plan : ClientPlan) : List Event :=
  match plan.token with
  | .ok _ => [Token.loadedEvent plan.tokenPath]
  | .error _ => []

/-- The event that reports a new client. -/
def builtEvent (client : Client) : Event where
  level := .info
  target := "opref_connect::shared"
  message := "connect client initialized"
  fields := [("url", client.baseUrl)]

end ClientPlan

/-- What has become of the client so far. -/
abbrev SharedClient := Option Client

/-- Asks for the client. The result has the events of making it. -/
def SharedClient.get (plan : ClientPlan) : SharedClient →
    Except Failure Client × List Event × SharedClient
  | some client => (.ok client, [], some client)
  | none =>
    match plan.build with
    | .ok client =>
      (.ok client, plan.tokenEvents ++ [ClientPlan.builtEvent client], some client)
    | .error failure => (.error failure, plan.tokenEvents, none)

end SecretRefs.Connect
