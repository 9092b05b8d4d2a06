/-!
# Data trees

A data tree is a JSON value whose mappings keep the order of their entries.
Whole numbers and floating-point numbers are told apart, as their written forms
differ.

`Json.insert` is the one way in which a mapping gains an entry: a key that is
present keeps its place and takes the new value.
-/

namespace SecretRefs

/-- A number of a data tree. -/
inductive Json.Number where
  | whole (value : Int)
  | decimal (value : Float)
deriving DecidableEq

/-- A data tree. -/
inductive Json where
  | null
  | boolean (value : Bool)
  | number (value : Json.Number)
  | string (text : String)
  | array (elements : List Json)
  | object (entries : List (String × Json))

instance : Inhabited Json := ⟨.null⟩

namespace Json

/-- The entries of a mapping, in order. -/
abbrev Entries := List (String × Json)

/-- The entries with `key` set to `value`: in its place if it is present, at the
end otherwise. -/
def insert (key : String) (value : Json) : Entries → Entries
  | [] => [(key, value)]
  | (name, current) :: rest =>
    if name == key then (name, value) :: rest else (name, current) :: insert key value rest

/-- The entries that result from inserting each of a list in order. -/
def collect (entries : Entries) : Entries :=
  entries.foldl (fun collected entry => insert entry.1 entry.2 collected) []

/-- The value of the first entry with this key. -/
def find? (key : String) (entries : Entries) : Option Json :=
  entries.lookup key

/-- The value of a key, if the tree is a mapping that has it. -/
def get? (key : String) : Json → Option Json
  | .object entries => find? key entries
  | _ => none

/-- The text of a string. -/
def text? : Json → Option String
  | .string text => some text
  | _ => none

/-- The elements of an array. -/
def elements? : Json → Option (List Json)
  | .array elements => some elements
  | _ => none

end Json

end SecretRefs
