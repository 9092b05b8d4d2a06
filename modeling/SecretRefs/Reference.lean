/-!
# Secret references

A secret reference is a text `op://<vault>/<item>/<field>` that points at a
field of a vault item. Vault and item are single segments; the field is the
rest of the text and may itself hold slashes. A text of any other shape is not
a reference.
-/

namespace SecretRefs

/-- A pointer to a field of an item in a vault. -/
structure Reference where
  vault : String
  item : String
  field : String
deriving Repr, DecidableEq

namespace Reference

/-- The scheme that every reference starts with. -/
def scheme : String := "op://"

/-- The reference with these parts, none of which may be empty. -/
def ofParts? (vault item field : String) : Option Reference :=
  if vault.isEmpty || item.isEmpty || field.isEmpty then none else some ⟨vault, item, field⟩

/-- The characters before and after the first slash. -/
def cut? : List Char → Option (List Char × List Char)
  | [] => none
  | '/' :: rest => some ([], rest)
  | c :: rest => (cut? rest).map fun (before, after) => (c :: before, after)

/-- Whether a character ends a line. -/
def isLineEnd (c : Char) : Bool :=
  c == '\n' || c == '\r'

/-- The reference that a text is, if it is one. -/
def parse? (text : String) : Option Reference := do
  let rest ← scheme.toList.isPrefixOf? text.toList
  guard !(rest.any isLineEnd)
  let (vault, rest) ← cut? rest
  let (item, field) ← cut? rest
  ofParts? (String.ofList vault) (String.ofList item) (String.ofList field)

/-- Whether a text is a reference. -/
def isReference (text : String) : Bool :=
  (parse? text).isSome

/-- The text of a reference. -/
def render (reference : Reference) : String :=
  scheme ++ reference.vault ++ "/" ++ reference.item ++ "/" ++ reference.field

instance : ToString Reference := ⟨render⟩

end Reference

end SecretRefs
