import SecretRefs.Files
import SecretRefs.Vault

/-!
# Settings

What a user can set, in three sections, with the values that hold where nothing
is set.
-/

namespace SecretRefs

/-- How to reach the secret store. -/
structure StoreSettings where
  connectUrl : String := "http://localhost:8080"
  /-- The file that holds the service token. A leading `~/` stands for the home
  directory. -/
  tokenPath : String := "~/.opref/secrets/connect-token"
  /-- What a service token must start with, if anything. -/
  tokenStart : Option String := none
  /-- How long one request may take, in seconds. -/
  timeout : Nat := 30
deriving Repr, DecidableEq

/-- What a command takes where its user names no vault, field or category. -/
structure FallbackSettings where
  vault : String := "Agent Secrets"
  field : String := "api key"
  category : Category := .apiCredential
deriving Repr, DecidableEq

/-- What is logged. -/
structure LogSettings where
  level : String := "warn"
deriving Repr, DecidableEq

/-- All settings. -/
structure Settings where
  store : StoreSettings := {}
  fallbacks : FallbackSettings := {}
  log : LogSettings := {}
deriving Repr, DecidableEq

/-- The token path with a leading `~/` replaced by the home directory. An
absolute path after `~/` stands for itself. -/
def StoreSettings.expandedTokenPath (settings : StoreSettings) (home : Option String) : String :=
  match "~/".toList.isPrefixOf? settings.tokenPath.toList, home with
  | some rest, some home => Files.join home (String.ofList rest)
  | _, _ => settings.tokenPath

end SecretRefs
