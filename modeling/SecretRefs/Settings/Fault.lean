import SecretRefs.Settings.KeyPlace
import SecretRefs.Settings.Refusal
import SecretRefs.Settings.Suggestion

/-!
# Faults of settings

What a user is told when settings cannot be used. A fault about an unknown key
suggests a known one and points at the key, if the text that has it can be told.
-/

namespace SecretRefs.Settings

/-- A named text in which keys can be pointed at. -/
structure Source where
  name : String
  content : String
deriving Repr, DecidableEq

/-- A part of a source, in bytes. -/
structure Span where
  source : Source
  offset : Nat
  length : Nat
deriving Repr, DecidableEq

/-- A reason why settings cannot be used. -/
inductive Fault where
  | unknownKey (key : String) (suggestion : Option String) (known : List String)
      (span : Option Span)
  | wrongType (key found expected : String)
  | missingKey (key : String)
  | missingFile (path : String)
  | invalid (detail : String)
  | other (detail : String)
deriving Repr, DecidableEq

namespace Fault

/-- What went wrong with a value of the wrong type. -/
def typeDetail (found expected : String) : String :=
  "found " ++ found ++ ", expected " ++ expected

/-- The wording of a fault. -/
def message : Fault → String
  | .unknownKey key _ _ _ => "unknown configuration key `" ++ key ++ "`"
  | .wrongType key found expected =>
    "invalid type for key `" ++ key ++ "`: " ++ typeDetail found expected
  | .missingKey key => "missing required key `" ++ key ++ "`"
  | .missingFile path => "config file not found: " ++ path
  | .invalid detail => "validation error: " ++ detail
  | .other detail => "configuration error: " ++ detail

/-- The code of a fault. -/
def code : Fault → String
  | .unknownKey .. => "opref::config::unknown_key"
  | .wrongType .. => "opref::config::invalid_type"
  | .missingKey _ => "opref::config::missing_key"
  | .missingFile _ => "opref::config::file_not_found"
  | .invalid _ => "opref::config::validation"
  | .other _ => "opref::config::other"

/-- The text of a list of keys. -/
def keyList (keys : List String) : String :=
  ", ".intercalate keys

/-- What a user can do about a fault. -/
def help? : Fault → Option String
  | .unknownKey _ (some suggestion) known _ =>
    some ("did you mean `" ++ suggestion ++ "`? valid keys: " ++ keyList known)
  | .unknownKey _ none known _ => some ("valid keys: " ++ keyList known)
  | .wrongType _ _ expected => some ("expected " ++ expected)
  | .missingKey key => some ("add `" ++ key ++ " = <value>` to your opref.toml")
  | .missingFile _ => some "check the path passed to --config"
  | .invalid _ => none
  | .other _ => none

/-- The words at the part of a source that a fault points at. -/
def label : String := "not a recognized key"

/-- The part of a source that a fault points at. -/
def span? : Fault → Option Span
  | .unknownKey _ _ _ span => span
  | _ => none

/-- The source that a value comes from. A value that is not in a file is taken to
come from the only source there is. -/
def sourceOf? (origin : Origin) (sources : List Source) : Option Source :=
  match origin with
  | .file path => sources.find? fun source => source.name == path
  | _ =>
    match sources with
    | [source] => some source
    | _ => none

/-- Where a key of a table stands in its source. -/
def keySpan? (origin : Origin) (table : List String) (key : String) (sources : List Source) :
    Option Span := do
  let source ← sourceOf? origin sources
  let offset ← KeyPlace.find? source.content table key
  some ⟨source, offset, key.utf8ByteSize⟩

/-- The fault that tells a reader in a directory of a refusal. -/
def ofRefusal (directory : String) (sources : List Source) (refusal : Refusal) : Fault :=
  match refusal.cause with
  | .unknownKey key known =>
    .unknownKey key (Suggestion.best? key known) known
      (keySpan? refusal.origin refusal.path.dropLast key sources)
  | .wrongType found expected => .wrongType (".".intercalate refusal.path) found expected
  | _ => .other (refusal.message directory)

end Fault

end SecretRefs.Settings
