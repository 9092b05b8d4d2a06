import SecretRefs.Proofs.Connect.Codec
import SecretRefs.Proofs.Json.Keys
import SecretRefs.Proofs.Vault.Codec

/-!
# What the body of an item says

A JSON object is a list of attributes here, and `ItemContent.SaidBy` tells what item it is by
the attributes with certain names; all others are kept. `ItemContent.form` is the JSON form of
such an item. Neither mentions how a client reads and writes items: that it reads what the body
says (`ItemContent.saidBy_of_read`) and sends the form (`ItemContent.encode_ofItem`) is proved.
-/

namespace SecretRefs.Connect

open Json

/-- The attributes of a JSON object, in order, repeated ones included. -/
abbrev Attributes : Type :=
  List (Option String × Document)

namespace Attributes

/-- The documents of the attributes with a name. -/
def named (attributes : Attributes) (name : String) : List Document :=
  (attributes.filter fun one => one.1 == some name).map Prod.snd

/-- The attributes whose names are not among these. -/
def others (attributes : Attributes) (names : List String) : Attributes :=
  attributes.filter fun one => !names.any fun name => one.1 == some name

/-- The text of the attribute with a name. One that is null or missing says the fallback. -/
inductive Says (attributes : Attributes) (name fallback : String) : String → Prop where
  | text {text : String} (only : attributes.named name = [.string (some text)]) :
      Says attributes name fallback text
  | null (only : attributes.named name = [.null]) : Says attributes name fallback fallback
  | missing (none : attributes.named name = []) : Says attributes name fallback fallback

/-- The entries that the attributes under other names make: their names and values in order. If
a name is repeated, its first place and its last value count. -/
def Keeps (attributes : Attributes) (names : List String) (extra : Entries) : Prop :=
  ∃ read, List.Forall₂
      (fun one (entry : String × Json) => one.1 = some entry.1 ∧
        ∃ room, one.2.value? room = some entry.2) (attributes.others names) read ∧
    extra = collect read

end Attributes

/-- What there is to a field on the wire. -/
structure FieldContent where
  id : String
  label : String
  value : String
  kind : String
  extra : Entries

/-- What there is to an item on the wire. -/
structure ItemContent where
  id : String
  title : String
  category : String
  vaultId : String
  fields : List FieldContent
  extra : Entries

namespace FieldContent

/-- A field is what an object says. -/
inductive SaidBy (content : FieldContent) : Document → Prop where
  | object {attributes : Attributes} (id : attributes.Says "id" "" content.id)
      (label : attributes.Says "label" "" content.label)
      (value : attributes.Says "value" "" content.value)
      (kind : attributes.Says "type" "STRING" content.kind)
      (extra : attributes.Keeps ["id", "label", "value", "type"] content.extra) :
      SaidBy content (.object attributes)

/-- The JSON form of a field. An empty id is left out. -/
def form (content : FieldContent) : Json :=
  .object (filledEntry "id" content.id ++ [("label", .string content.label),
    ("value", .string content.value), ("type", .string content.kind)] ++ content.extra)

/-- A field as it is on the wire. -/
def ofField (field : Field) : FieldContent :=
  ⟨field.id, field.title, field.value, field.kind.name, field.extra⟩

end FieldContent

namespace ItemContent

/-- A document names a vault. -/
inductive NamesVault (vaultId : String) : Document → Prop where
  | object {attributes : Attributes} (only : attributes.named "id" = [.string (some vaultId)]) :
      NamesVault vaultId (.object attributes)
  | array : NamesVault vaultId (.array [.string (some vaultId)])

/-- The fields among the attributes of an item. -/
inductive HasFields (attributes : Attributes) : List FieldContent → Prop where
  | array {documents : List Document} {fields : List FieldContent}
      (only : attributes.named "fields" = [.array documents])
      (each : List.Forall₂ FieldContent.SaidBy fields documents) : HasFields attributes fields
  | missing (none : attributes.named "fields" = []) : HasFields attributes []

/-- An item is what an object says. -/
inductive SaidBy (content : ItemContent) : Document → Prop where
  | object {attributes : Attributes} {vault : Document}
      (id : attributes.Says "id" "" content.id)
      (title : attributes.named "title" = [.string (some content.title)])
      (category : attributes.Says "category" "" content.category)
      (onlyVault : attributes.named "vault" = [vault])
      (vaultId : NamesVault content.vaultId vault)
      (fields : HasFields attributes content.fields)
      (extra : attributes.Keeps ["id", "title", "category", "vault", "fields"] content.extra) :
      SaidBy content (.object attributes)

/-- The JSON form of an item. An empty id is left out. -/
def form (content : ItemContent) : Json :=
  .object (filledEntry "id" content.id ++ [("title", .string content.title),
    ("category", .string content.category),
    ("vault", .object [("id", .string content.vaultId)]),
    ("fields", .array (content.fields.map FieldContent.form))] ++ content.extra)

/-- An item as it is on the wire. -/
def ofItem (item : Item) : ItemContent :=
  ⟨item.id, item.title, item.category.name, item.vaultId,
    item.fields.map FieldContent.ofField, item.extra⟩

end ItemContent

/-! ## What is read -/

section Read

variable {attributes : Attributes} {room position : Nat} {name fallback : String}

/-- Records that may have any attributes are objects. -/
theorem of_ofMapping? {document : Document} {parts : Parts}
    (run : Parts.ofMapping? room document = some parts) :
    ∃ attributes, document = .object attributes ∧ parts = .named attributes := by
  unfold Parts.ofMapping? at run
  split at run
  · split at run
    · cases run
      exact ⟨_, rfl, rfl⟩
    · cases run
  · cases run

theorem named_of_find? {found : Option Document}
    (run : (Parts.named attributes).find? position name = some found) :
    attributes.named name = found.toList := by
  unfold Attributes.named
  unfold Parts.find? at run
  dsimp only at run
  split at run
  · rename_i none
    cases run
    rw [none]
    rfl
  · rename_i key document only
    cases run
    rw [only]
    rfl
  · cases run

theorem named_of_required {α : Type} {reader : Reader α} {value : α}
    (run : (Parts.named attributes).required room position name reader = some value) :
    ∃ document, attributes.named name = [document] ∧ reader (room - 1) document = some value := by
  unfold Parts.required at run
  split at run
  · rename_i document found
    exact ⟨document, named_of_find? found, run⟩
  · cases run

theorem named_of_defaulted {α : Type} {reader : Reader α} {missing value : α}
    (run : (Parts.named attributes).defaulted room position name reader missing = some value) :
    (attributes.named name = [] ∧ value = missing) ∨
      ∃ document, attributes.named name = [document] ∧
        reader (room - 1) document = some value := by
  unfold Parts.defaulted at run
  split at run
  · rename_i document found
    exact .inr ⟨document, named_of_find? found, run⟩
  · rename_i found
    cases run
    exact .inl ⟨named_of_find? found, rfl⟩
  · cases run

theorem of_string {document : Document} {text : String}
    (run : Reader.string room document = some text) : document = .string (some text) := by
  unfold Reader.string at run
  split at run
  · rw [run]
  · cases run

/-- A text with a fallback says what its attribute does. -/
theorem says_of_string {text : String}
    (run : (Parts.named attributes).defaulted room position name Reader.string fallback =
      some text) : attributes.Says name fallback text := by
  rcases named_of_defaulted run with ⟨none, rfl⟩ | ⟨document, only, read⟩
  · exact .missing none
  · rw [of_string read] at only
    exact .text only

/-- A text that may be null or missing says what its attribute does. -/
theorem says_of_optionalString {text : Option String} (fallback : String)
    (run : (Parts.named attributes).defaulted room position name Reader.optionalString none =
      some text) : attributes.Says name fallback (text.getD fallback) := by
  rcases named_of_defaulted run with ⟨none, rfl⟩ | ⟨document, only, read⟩
  · exact .missing none
  · unfold Reader.optionalString at read
    split at read
    · cases read
      exact .null only
    · cases read
      exact .text only
    · cases read

/-- The entries of a mapping are read one by one. -/
theorem forall₂_of_entries? {read : Entries}
    (run : Document.entries? attributes room = some read) :
    List.Forall₂ (fun one (entry : String × Json) => one.1 = some entry.1 ∧
      ∃ room, one.2.value? room = some entry.2) attributes read := by
  induction attributes generalizing read with
  | nil =>
    cases run
    exact .nil
  | cons first others inductionHypothesis =>
    obtain ⟨key, document⟩ := first
    simp only [Document.entries?] at run
    split at run
    · rename_i isValue isRest
      cases run
      exact .cons ⟨rfl, _, isValue⟩ (inductionHypothesis isRest)
    · cases run

/-- An open record keeps the attributes under other names. -/
theorem keeps_of_others {names : List String} {extra : Entries}
    (run : (Parts.named attributes).others room names = some extra) :
    attributes.Keeps names extra := by
  obtain ⟨read, isRead, rfl⟩ := Option.map_eq_some_iff.mp run
  exact ⟨read, forall₂_of_entries? isRead, rfl⟩

/-- A client reads the field that an object says. -/
theorem FieldContent.saidBy_of_read {document : Document} {field : WireField}
    (read : WireField.read room document = some field) :
    (FieldContent.ofField field.toField).SaidBy document := by
  unfold WireField.read at read
  simp only [Option.bind_eq_bind, Option.bind_eq_some_iff] at read
  obtain ⟨parts, isParts, id, isId, label, isLabel, value, isValue, kind, isKind, extra, isExtra,
    isField⟩ := read
  obtain ⟨attributes, rfl, rfl⟩ := of_ofMapping? isParts
  cases isField
  have kindName : ((kind.map FieldKind.ofName).getD .text).name = kind.getD "STRING" := by
    cases kind with
    | none => rfl
    | some name => exact FieldKind.name_ofName name
  refine .object (says_of_string isId) (says_of_optionalString "" isLabel)
    (says_of_optionalString "" isValue) ?_ (keeps_of_others isExtra)
  have isSaid := says_of_optionalString "STRING" isKind
  rwa [← kindName] at isSaid

/-- A client reads the id of a vault that is named. -/
theorem namesVault_of_read {document : Document} {vaultId : String}
    (read : WireItem.readVaultId room document = some vaultId) :
    ItemContent.NamesVault vaultId document := by
  unfold WireItem.readVaultId at read
  simp only [Option.bind_eq_bind, Option.bind_eq_some_iff] at read
  obtain ⟨parts, isParts, isId⟩ := read
  unfold Parts.ofDocument? at isParts
  split at isParts
  · rename_i elements inner
    split at isParts
    · rename_i short
      cases isParts
      match elements, short with
      | [], _ => cases isId
      | [element], _ =>
        have isString : Reader.string inner element = some vaultId := isId
        rw [of_string isString]
        exact .array
    · cases isParts
  · obtain ⟨attributes, rfl, rfl⟩ := of_ofMapping? isParts
    obtain ⟨document, only, isString⟩ := named_of_required isId
    rw [of_string isString] at only
    exact .object only

/-- A client reads the fields that an item has. -/
theorem hasFields_of_defaulted {fields : List WireField}
    (run : (Parts.named attributes).defaulted room position "fields"
      (Reader.list WireField.read) [] = some fields) :
    ItemContent.HasFields attributes
      ((fields.map WireField.toField).map FieldContent.ofField) := by
  rcases named_of_defaulted run with ⟨none, rfl⟩ | ⟨document, only, isList⟩
  · exact .missing none
  · unfold Reader.list at isList
    split at isList
    · rename_i documents inner isRoom
      refine .array only ?_
      clear only run
      induction documents generalizing fields with
      | nil =>
        cases isList
        exact .nil
      | cons document documents inductionHypothesis =>
        simp only [List.mapM_cons, Option.bind_eq_bind, Option.bind_eq_some_iff] at isList
        obtain ⟨first, isFirst, rest, isRest, both⟩ := isList
        cases both
        exact .cons (FieldContent.saidBy_of_read isFirst) (inductionHypothesis isRest)
    · cases isList

/-- A client reads the item that an object says. -/
theorem ItemContent.saidBy_of_read {document : Document} {item : WireItem}
    (read : WireItem.read room document = some item) :
    (ItemContent.ofItem item.toItem).SaidBy document := by
  unfold WireItem.read at read
  simp only [Option.bind_eq_bind, Option.bind_eq_some_iff] at read
  obtain ⟨parts, isParts, id, isId, title, isTitle, category, isCategory, vaultId, isVaultId,
    fields, isFields, extra, isExtra, isItem⟩ := read
  obtain ⟨attributes, rfl, rfl⟩ := of_ofMapping? isParts
  cases isItem
  obtain ⟨titleDocument, onlyTitle, readTitle⟩ := named_of_required isTitle
  rw [of_string readTitle] at onlyTitle
  obtain ⟨vault, onlyVault, readVault⟩ := named_of_required isVaultId
  have isCategoryName : (Category.ofName category).name = category :=
    Category.name_ofName category
  refine .object (says_of_string isId) onlyTitle ?_ onlyVault (namesVault_of_read readVault)
    (hasFields_of_defaulted isFields) (keeps_of_others isExtra)
  have isSaid := says_of_string isCategory
  rwa [← isCategoryName] at isSaid

end Read

/-! ## What is sent -/

/-- What a client sends for a field is its form. -/
theorem FieldContent.encode_ofField (field : Field) :
    (WireField.ofField field).encode = (FieldContent.ofField field).form := by
  simp [WireField.encode, WireField.ofField, FieldContent.form, FieldContent.ofField,
    presentEntry]

/-- What a client sends for an item is its form. -/
theorem ItemContent.encode_ofItem (item : Item) :
    (WireItem.ofItem item).encode = (ItemContent.ofItem item).form := by
  simp [WireItem.encode, WireItem.ofItem, ItemContent.form, ItemContent.ofItem,
    Function.comp_def, FieldContent.encode_ofField]

/-- Entries that are carried along repeat no key of a record. -/
theorem keysDistinct_of_carried {names : List String} {room : Nat} {known extra : Entries}
    (carried : Json.Carried names room extra) (parts : ∀ entry ∈ known, entry.1 ∈ names)
    (keys : (known.map Prod.fst).Nodup) (each : ∀ entry ∈ known, entry.2.KeysDistinct) :
    (Json.object (known ++ extra)).KeysDistinct := by
  refine .object ?_ ?_
  · rw [List.map_append, List.nodup_append]
    refine ⟨keys, carried.distinct, ?_⟩
    rintro key isKnown other isExtra rfl
    obtain ⟨entry, member, rfl⟩ := List.mem_map.mp isKnown
    obtain ⟨extraEntry, extraMember, same⟩ := List.mem_map.mp isExtra
    exact carried.foreign extraEntry extraMember (same ▸ parts entry member)
  · intro entry member
    rcases List.mem_append.mp member with isKnown | isExtra
    · exact each entry isKnown
    · exact Document.keysDistinct_of_value? _ (carried.readable entry isExtra)

/-- The keys of a record whose id may be left out. -/
theorem keys_filledEntry_append (id : String) (known : Entries) :
    ((filledEntry "id" id ++ known).map Prod.fst).Sublist ("id" :: known.map Prod.fst) := by
  have idKey : ((filledEntry "id" id).map Prod.fst).Sublist ["id"] := by
    unfold filledEntry
    split
    · exact List.nil_sublist _
    · exact List.Sublist.refl _
  rw [List.map_append]
  exact idKey.append (List.Sublist.refl _)

theorem mem_names_of_known {names : List String} {id : String} {known : Entries}
    (parts : ∀ name ∈ "id" :: known.map Prod.fst, name ∈ names) :
    ∀ entry ∈ filledEntry "id" id ++ known, entry.1 ∈ names := by
  intro entry member
  exact parts entry.1 ((keys_filledEntry_append id known).subset (List.mem_map_of_mem member))

/-- A record whose id may be left out repeats no key. -/
theorem keysDistinct_record {names : List String} {room : Nat} {id : String}
    {known extra : Entries} (carried : Json.Carried names room extra)
    (parts : ∀ name ∈ "id" :: known.map Prod.fst, name ∈ names)
    (keys : ("id" :: known.map Prod.fst).Nodup) (each : ∀ entry ∈ known, entry.2.KeysDistinct) :
    (Json.object (filledEntry "id" id ++ known ++ extra)).KeysDistinct := by
  refine keysDistinct_of_carried carried (mem_names_of_known parts)
    (keys.sublist (keys_filledEntry_append id known)) ?_
  intro entry member
  rcases List.mem_append.mp member with isId | isKnown
  · unfold filledEntry at isId
    split at isId
    · cases isId
    · rw [List.mem_singleton.mp isId]
      exact .string id
  · exact each entry isKnown

theorem FieldContent.keysDistinct_form {content : FieldContent} {room : Nat}
    (carried : Json.Carried WireField.partNames room content.extra) :
    content.form.KeysDistinct := by
  refine keysDistinct_record carried ?_ (by simp) ?_
  · exact fun name member => member
  · simp only [List.forall_mem_cons]
    exact ⟨.string _, .string _, .string _, by simp⟩

theorem ItemContent.keysDistinct_form {content : ItemContent} {room : Nat}
    (carried : Json.Carried WireItem.partNames room content.extra)
    (fields : ∀ field ∈ content.fields, ∃ inner,
      Json.Carried WireField.partNames inner field.extra) :
    content.form.KeysDistinct := by
  refine keysDistinct_record carried ?_ (by simp) ?_
  · exact fun name member => member
  · have vault : (Json.object [("id", .string content.vaultId)]).KeysDistinct :=
      .object (List.nodup_singleton _) fun entry member => by
        rw [List.mem_singleton.mp member]
        exact .string _
    have each : (Json.array (content.fields.map FieldContent.form)).KeysDistinct := by
      refine .array fun form member => ?_
      obtain ⟨field, fieldMember, rfl⟩ := List.mem_map.mp member
      obtain ⟨inner, fieldCarried⟩ := fields field fieldMember
      exact FieldContent.keysDistinct_form fieldCarried
    simp only [List.forall_mem_cons]
    exact ⟨.string _, .string _, vault, each, by simp⟩

end SecretRefs.Connect
