import SecretRefs.Json.Value
import SecretRefs.Text.Quoted

/-!
# Vaults and items

The data that a secret store holds: vaults, the items in them and the fields of
an item. Attributes that a store attaches and this library does not interpret
are carried along in `extra`, in their order.

The `inspect` functions give diagnostic texts. They never show the value of a
field.
-/

namespace SecretRefs

/-- The type of a field, in the store's spelling. -/
inductive FieldKind where
  | text
  | concealed
  | other (name : String)
deriving Repr, DecidableEq

/-- The category of an item, in the store's spelling. -/
inductive Category where
  | apiCredential
  | login
  | password
  | secureNote
  | other (name : String)
deriving Repr, DecidableEq

namespace FieldKind

/-- The kind with this spelling. -/
def ofName (name : String) : FieldKind :=
  match name with
  | "STRING" => .text
  | "CONCEALED" => .concealed
  | _ => .other name

/-- The spelling of a kind. -/
def name : FieldKind → String
  | .text => "STRING"
  | .concealed => "CONCEALED"
  | .other name => name

/-- The diagnostic text of a kind. -/
def inspect : FieldKind → String
  | .text => "Text"
  | .concealed => "Concealed"
  | .other name => "Other(" ++ Text.quoted name ++ ")"

end FieldKind

namespace Category

/-- The category with this spelling. -/
def ofName (name : String) : Category :=
  match name with
  | "API_CREDENTIAL" => .apiCredential
  | "LOGIN" => .login
  | "PASSWORD" => .password
  | "SECURE_NOTE" => .secureNote
  | _ => .other name

/-- The spelling of a category. -/
def name : Category → String
  | .apiCredential => "API_CREDENTIAL"
  | .login => "LOGIN"
  | .password => "PASSWORD"
  | .secureNote => "SECURE_NOTE"
  | .other name => name

/-- The diagnostic text of a category. -/
def inspect : Category → String
  | .apiCredential => "ApiCredential"
  | .login => "Login"
  | .password => "Password"
  | .secureNote => "SecureNote"
  | .other name => "Other(" ++ Text.quoted name ++ ")"

end Category

/-- A vault that a store shows to its caller. -/
structure VaultSummary where
  id : String
  title : String
deriving Repr, DecidableEq

/-- An item as a vault lists it, without its fields. -/
structure ItemSummary where
  id : String
  title : String
  category : Category
deriving Repr, DecidableEq

/-- A field of an item. A field that was never stored has an empty id. -/
structure Field where
  id : String
  title : String
  value : String
  kind : FieldKind
  extra : Json.Entries

/-- An item with its fields. -/
structure Item where
  id : String
  vaultId : String
  title : String
  category : Category
  fields : List Field
  extra : Json.Entries

/-- The content of an item that is still to be created. -/
structure NewItem where
  vaultId : String
  title : String
  category : Category
  fields : List Field

/-- The listed form of an item. -/
def Item.summary (item : Item) : ItemSummary :=
  ⟨item.id, item.title, item.category⟩

namespace Field

/-- What diagnostic texts show in place of a secret. -/
def mask : String := "[REDACTED]"

/-- A new concealed field. -/
def concealed (title value : String) : Field :=
  ⟨"", title, value, .concealed, []⟩

/-- The diagnostic text of a field, which hides its value. -/
def inspect (field : Field) : String :=
  "Field \x7b id: " ++ Text.quoted field.id ++ ", title: " ++ Text.quoted field.title ++
    ", value: " ++ Text.quoted mask ++ ", field_type: " ++ field.kind.inspect ++ " \x7d"

end Field

end SecretRefs
