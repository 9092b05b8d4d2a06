import SecretRefs.Toml.Value

/-!
# Values of settings

What a source of settings says before it is checked: values that know where they
come from, in tables whose entries are in the order of their keys.

`Value.cover` lays one value over another, table by table. For a key that only one
of two tables has, its value holds; for any other kind of value the upper one does.
-/

namespace SecretRefs.Settings

/-- Where a value comes from. -/
inductive Origin where
  /-- The settings that hold without being set. -/
  | builtIn
  /-- A text that is not in a file. -/
  | inline
  | file (path : String)
  /-- The environment variables. -/
  | environment
deriving Repr, DecidableEq

/-- A value without parts. -/
inductive Scalar where
  | text (value : String)
  | boolean (value : Bool)
  | integer (value : Int)
  /-- A number that is written as a natural one. -/
  | natural (value : Nat)
  | decimal (value : Float)
  | absent

/-- A value and where it comes from. -/
inductive Value where
  | scalar (origin : Origin) (value : Scalar)
  | sequence (origin : Origin) (elements : List Value)
  | table (origin : Origin) (entries : List (String × Value))

instance : Inhabited Value := ⟨.sequence .builtIn []⟩

namespace Value

/-- The entries of a table. -/
abbrev Entries := List (String × Value)

/-- Where a value comes from. -/
def origin : Value → Origin
  | .scalar origin _ => origin
  | .sequence origin _ => origin
  | .table origin _ => origin

/-- The entries of a table in the order of their keys, with one of them set. -/
def put (key : String) (value : Value) : Entries → Entries
  | [] => [(key, value)]
  | (name, current) :: rest =>
    if name == key then (name, value) :: rest
    else if key < name then (key, value) :: (name, current) :: rest
    else (name, current) :: put key value rest

/-- The table with one entry under a dotted key. -/
def nested (origin : Origin) : List String → Value → Value
  | [], value => value
  | key :: path, value => .table origin [(key, nested origin path value)]

mutual

/-- A value over another one. -/
def cover : (upper lower : Value) → Value
  | .table origin entries, lower =>
    match lower with
    | .table _ below => .table origin (coverEntries entries below)
    | _ => .table origin entries
  | upper, _ => upper

/-- Entries over other ones. -/
def coverEntries : (upper lower : List (String × Value)) → Entries
  | [], lower => lower
  | (key, value) :: rest, lower =>
    let value :=
      match lower.lookup key with
      | some below => cover value below
      | none => value
    coverEntries rest (put key value lower)

end

/-- The key that a moment of a TOML document has as a table. -/
def momentKey : String := "$__toml_private_datetime"

mutual

/-- A value of a TOML document. A moment is a table with its written form. -/
def ofToml (origin : Origin) : Toml.Value → Value
  | .text value => .scalar origin (.text value)
  | .integer value => .scalar origin (.integer value)
  | .decimal value => .scalar origin (.decimal value)
  | .boolean value => .scalar origin (.boolean value)
  | .moment written => .table origin [(momentKey, .scalar origin (.text written))]
  | .array elements => .sequence origin (ofTomlElements origin elements)
  | .table entries => .table origin (ofTomlEntries origin entries)

/-- The values of an array of a TOML document. -/
def ofTomlElements (origin : Origin) : List Toml.Value → List Value
  | [] => []
  | value :: rest => ofToml origin value :: ofTomlElements origin rest

/-- The entries of a table of a TOML document, in the order of their keys. -/
def ofTomlEntries (origin : Origin) : List (String × Toml.Value) → Entries
  | [] => []
  | (key, value) :: rest => put key (ofToml origin value) (ofTomlEntries origin rest)

end

end Value

end SecretRefs.Settings
