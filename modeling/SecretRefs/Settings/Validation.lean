import SecretRefs.Settings
import SecretRefs.Settings.Fault

/-!
# Validation of settings

What settings must fulfil beyond being of the right types. All faults are found,
in the order of the rules.
-/

namespace SecretRefs.Settings.Validation

/-- The levels of logging. -/
def levels : List String := ["trace", "debug", "info", "warn", "error"]

/-- What a URL must start with, one of these. -/
def schemes : List String := ["http://", "https://"]

/-- Whether a URL starts with a scheme. -/
def hasScheme (url : String) : Bool :=
  schemes.any fun scheme => scheme.toList.isPrefixOf url.toList

/-- What is wrong with the URL of the server. -/
def urlFaults (url : String) : List String :=
  let url := Text.trim url
  if url.isEmpty then ["store.connect_url must not be empty"]
  else if hasScheme url then []
  else ["store.connect_url `" ++ url ++ "` must start with http:// or https://"]

/-- A detail that holds for a text of blanks. -/
def blankFaults (value detail : String) : List String :=
  if Text.isBlankText value then [detail] else []

/-- What is wrong with the start that tokens must have. -/
def tokenStartFaults : Option String → List String
  | some start => blankFaults start "store.token_prefix must not be empty when set"
  | none => []

/-- What is wrong with the level of logging. -/
def levelFaults (level : String) : List String :=
  if levels.contains (Text.asciiLower level) then []
  else ["logging.level `" ++ level ++ "` is not one of " ++ ", ".intercalate levels]

/-- Everything that is wrong with settings. -/
def details (settings : Settings) : List String :=
  urlFaults settings.store.connectUrl ++
    blankFaults settings.store.tokenPath "store.token_path must not be empty" ++
    tokenStartFaults settings.store.tokenStart ++
    (if settings.store.timeout == 0 then ["store.timeout_secs must be greater than 0"] else []) ++
    blankFaults settings.fallbacks.vault "defaults.vault must not be empty" ++
    blankFaults settings.fallbacks.field "defaults.field must not be empty" ++
    levelFaults settings.log.level

/-- The settings, if nothing is wrong with them. -/
def check (settings : Settings) : Except (List Fault) Settings :=
  match details settings with
  | [] => .ok settings
  | found => .error (found.map Fault.invalid)

end SecretRefs.Settings.Validation
