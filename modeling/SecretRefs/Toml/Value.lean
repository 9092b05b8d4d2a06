/-!
# Values of TOML documents
-/

namespace SecretRefs.Toml

/-- A value of a document. Keys of a table are different from each other. -/
inductive Value where
  | text (value : String)
  | integer (value : Int)
  | decimal (value : Float)
  | boolean (value : Bool)
  /-- A date, a time of day or both, as it is written. -/
  | moment (written : String)
  | array (elements : List Value)
  | table (entries : List (String × Value))

instance : Inhabited Value := ⟨.boolean false⟩

/-- The entries of a table. -/
abbrev Entries := List (String × Value)

end SecretRefs.Toml
