import SecretRefs.Settings
import SecretRefs.Settings.Refusal

/-!
# Reading settings

The schema of the settings, and how a value is read by it. Keys that the schema
does not have are refused, and so are values of another type. A table is read in
the order of its keys, and the first refusal ends the reading.

A section may also be given as a sequence, which fills its keys in their order.
-/

namespace SecretRefs.Settings

/-- What reading a value gives. -/
abbrev Reading (α : Type) := Except Refusal α

/-- A key of a section: its name, and how its value at a path becomes part of what
the section says. -/
structure SectionKey (α : Type) where
  name : String
  set : (path : List String) → Value → α → Reading α

namespace Extraction

/-- The refusal of a value for its type. -/
def wrongType {α : Type} (expected : String) (path : List String) (value : Value) : Reading α :=
  .error ⟨.wrongType value.inWords expected, path, value.origin⟩

/-- A text. -/
def text (path : List String) : Value → Reading String
  | .scalar _ (.text value) => .ok value
  | value => wrongType "a string" path value

/-- A text or nothing. -/
def optionalText (path : List String) : Value → Reading (Option String)
  | .scalar _ .absent => .ok none
  | value => (text path value).map some

/-- A natural number. -/
def natural (path : List String) : Value → Reading Nat
  | .scalar _ (.natural value) => .ok value
  | .scalar origin (.integer value) =>
    if 0 ≤ value then .ok value.toNat
    else .error ⟨.wrongValue (Value.scalar origin (.integer value)).inWords "u64", path, origin⟩
  | value => wrongType "u64" path value

/-- The key of a list with a name. -/
def findKey? {α : Type} (keys : List (SectionKey α)) (name : String) : Option (SectionKey α) :=
  keys.find? fun key => key.name == name

/-- Reads the entries of a table into what is known of a section. -/
def entries {α : Type} (keys : List (SectionKey α)) (path : List String) :
    Value.Entries → α → Reading α
  | [], read => .ok read
  | (name, value) :: rest, read =>
    match findKey? keys name with
    | none =>
      .error ⟨.unknownKey name (keys.map SectionKey.name), path ++ [name], value.origin⟩
    | some key =>
      match key.set (path ++ [name]) value read with
      | .error refusal => .error refusal
      | .ok read => entries keys path rest read

/-- Reads the elements of a sequence, of which the first has a position, for keys in
their order. -/
def elements {α : Type} (path : List String) :
    (position : Nat) → List (SectionKey α) → List Value → α → Reading α
  | position, key :: keys, value :: rest, read =>
    match key.set (path ++ [toString position]) value read with
    | .error refusal => .error refusal
    | .ok read => elements path (position + 1) keys rest read
  | _, _, _, read => .ok read

/-- Reads a section. What the value does not say stays as at the start. -/
def fromSection {α : Type} (typeName : String) (keys : List (SectionKey α)) (start : α)
    (path : List String) : Value → Reading α
  | .table _ found => entries keys path found start
  | .sequence _ found => elements path 0 keys found start
  | value => wrongType ("struct " ++ typeName) path value

/-- The keys of the store section. -/
def storeKeys : List (SectionKey StoreSettings) :=
  [⟨"connect_url", fun path value read =>
      (text path value).map fun connectUrl => { read with connectUrl }⟩,
    ⟨"token_path", fun path value read =>
      (text path value).map fun tokenPath => { read with tokenPath }⟩,
    ⟨"token_prefix", fun path value read =>
      (optionalText path value).map fun tokenStart => { read with tokenStart }⟩,
    ⟨"timeout_secs", fun path value read =>
      (natural path value).map fun timeout => { read with timeout }⟩]

/-- The keys of the section of fallbacks. -/
def fallbackKeys : List (SectionKey FallbackSettings) :=
  [⟨"vault", fun path value read => (text path value).map fun vault => { read with vault }⟩,
    ⟨"field", fun path value read => (text path value).map fun field => { read with field }⟩,
    ⟨"category", fun path value read =>
      (text path value).map fun name => { read with category := Category.ofName name }⟩]

/-- The keys of the section of logging. -/
def logKeys : List (SectionKey LogSettings) :=
  [⟨"level", fun path value read => (text path value).map fun level => { read with level }⟩]

/-- The sections of the settings. -/
def sections : List (SectionKey Settings) :=
  [⟨"store", fun path value read =>
      (fromSection "StoreConfig" storeKeys {} path value).map fun store => { read with store }⟩,
    ⟨"defaults", fun path value read =>
      (fromSection "DefaultsConfig" fallbackKeys {} path value).map fun fallbacks =>
        { read with fallbacks }⟩,
    ⟨"logging", fun path value read =>
      (fromSection "LoggingConfig" logKeys {} path value).map fun log => { read with log }⟩]

/-- Reads all settings. -/
def settings : Value → Reading Settings :=
  fromSection "OprefConfig" sections {} []

end Extraction

/-- Settings as the value that says all of them. -/
def toValue (settings : Settings) : Value :=
  let text (value : String) := Value.scalar .builtIn (.text value)
  let table := Value.table .builtIn
  table
    [("defaults", table
      [("category", text settings.fallbacks.category.name),
        ("field", text settings.fallbacks.field),
        ("vault", text settings.fallbacks.vault)]),
      ("logging", table [("level", text settings.log.level)]),
      ("store", table
        [("connect_url", text settings.store.connectUrl),
          ("timeout_secs", .scalar .builtIn (.natural settings.store.timeout)),
          ("token_path", text settings.store.tokenPath),
          ("token_prefix", .scalar .builtIn
            (match settings.store.tokenStart with
              | some start => .text start
              | none => .absent))])]

end SecretRefs.Settings
