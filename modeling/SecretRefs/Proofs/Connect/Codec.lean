import SecretRefs.Proofs.Json.Record
import SecretRefs.Proofs.Upsert.Fields
import SecretRefs.Connect.Wire

/-!
# Items that are read, changed and sent

What a client sends for an item can be read as that item (`WireItem.read_encode`), provided
that the entries it does not interpret were read from a document (`WireItem.Carried`). That is
so for every item that was read (`WireItem.carried_of_read`), and new fields have no such
entries.
-/

namespace SecretRefs.Connect

open Json

@[simp] theorem filter_filledEntry (key text name : String) :
    (filledEntry key text).filter (fun entry => entry.1 == name) =
      if key = name then filledEntry key text else [] := by
  unfold filledEntry
  split <;> split <;> simp_all

@[simp] theorem filter_presentEntry (key name : String) (text : Option String) :
    (presentEntry key text).filter (fun entry => entry.1 == name) =
      if key = name then presentEntry key text else [] := by
  cases text <;> split <;> simp_all [presentEntry]

theorem key_of_mem_filledEntry {key text : String} {entry : String × Json}
    (member : entry ∈ filledEntry key text) : entry.1 = key := by
  unfold filledEntry at member
  split at member
  · cases member
  · rw [List.mem_singleton.mp member]

theorem key_of_mem_presentEntry {key : String} {text : Option String} {entry : String × Json}
    (member : entry ∈ presentEntry key text) : entry.1 = key := by
  cases text with
  | none => cases member
  | some text => rw [List.mem_singleton.mp member]

/-- A text that is left out when it is empty can be read. -/
theorem readPart_filledEntry (key text : String) (room : Nat) :
    Parts.readPart Reader.string room (some "") (filledEntry key text) = some text := by
  unfold filledEntry
  cases empty : text.isEmpty with
  | true => rw [String.isEmpty_iff.mp empty]; rfl
  | false => rfl

/-- A text that may be missing can be read. -/
theorem readPart_presentEntry (key : String) (text : Option String) (room : Nat) :
    Parts.readPart Reader.optionalString room (some none) (presentEntry key text) =
      some text := by
  cases text with
  | none => rfl
  | some text => rfl

namespace WireField

variable {room : Nat}

/-- The entries for the parts of a field. -/
def knownEntries (field : WireField) : Entries :=
  filledEntry "id" field.id ++ presentEntry "label" field.label ++
    presentEntry "value" field.value ++ presentEntry "type" field.kind

theorem knownEntries_parts (field : WireField) :
    ∀ entry ∈ field.knownEntries, entry.1 ∈ partNames := by
  intro entry member
  simp only [knownEntries, List.mem_append] at member
  rcases member with ((inId | inLabel) | inValue) | inKind
  · simp [key_of_mem_filledEntry inId, partNames]
  · simp [key_of_mem_presentEntry inLabel, partNames]
  · simp [key_of_mem_presentEntry inValue, partNames]
  · simp [key_of_mem_presentEntry inKind, partNames]

/-- What is sent for a field can be read as that field. -/
theorem read_encode {field : WireField} (carried : Carried partNames room field.extra) :
    WireField.read (room + 1) (Document.ofValue field.encode) = some field := by
  have encoded : field.encode = .object (field.knownEntries ++ field.extra) := rfl
  let parts := Parts.ofEntries (field.knownEntries ++ field.extra)
  have id : parts.defaulted (room + 1) 0 "id" Reader.string "" = some field.id := by
    rw [Parts.defaulted_ofEntries carried _ _ _ (by simp [partNames])]
    simpa [knownEntries] using readPart_filledEntry "id" field.id room
  have label : parts.defaulted (room + 1) 1 "label" Reader.optionalString none =
      some field.label := by
    rw [Parts.defaulted_ofEntries carried _ _ _ (by simp [partNames])]
    simpa [knownEntries] using readPart_presentEntry "label" field.label room
  have value : parts.defaulted (room + 1) 2 "value" Reader.optionalString none =
      some field.value := by
    rw [Parts.defaulted_ofEntries carried _ _ _ (by simp [partNames])]
    simpa [knownEntries] using readPart_presentEntry "value" field.value room
  have kind : parts.defaulted (room + 1) 3 "type" Reader.optionalString none =
      some field.kind := by
    rw [Parts.defaulted_ofEntries carried _ _ _ (by simp [partNames])]
    simpa [knownEntries] using readPart_presentEntry "type" field.kind room
  have extra : parts.others (room + 1) partNames = some field.extra :=
    Parts.others_ofEntries carried field.knownEntries_parts
  unfold WireField.read
  rw [encoded, Parts.ofMapping?_ofValue]
  simp only [Option.bind_eq_bind, Option.bind_some]
  simp only [parts] at id label value kind extra
  rw [id, label, value, kind, extra]
  rfl

/-- The entries that a field was read with can be carried along. -/
theorem carried_of_read {field : WireField} {document : Document}
    (read : WireField.read (room + 1) document = some field) :
    Carried partNames room field.extra := by
  unfold WireField.read at read
  simp only [Option.bind_eq_bind, Option.bind_eq_some_iff] at read
  obtain ⟨parts, _, id, _, label, _, value, _, kind, _, extra, isExtra, isField⟩ := read
  cases isField
  exact Parts.carried_of_others isExtra

end WireField

namespace WireItem

variable {room : Nat}

/-- An item whose entries that are not interpreted can be carried along. -/
structure Carried (room : Nat) (item : WireItem) : Prop where
  extra : Json.Carried partNames (room + 2) item.extra
  fields : ∀ field ∈ item.fields, Json.Carried WireField.partNames room field.extra

/-- The entries for the parts of an item. -/
def knownEntries (item : WireItem) : Entries :=
  filledEntry "id" item.id ++
    [("title", .string item.title), ("category", .string item.category),
      ("vault", .object [("id", .string item.vaultId)]),
      ("fields", .array (item.fields.map WireField.encode))]

theorem knownEntries_parts (item : WireItem) :
    ∀ entry ∈ item.knownEntries, entry.1 ∈ partNames := by
  intro entry member
  rcases List.mem_append.mp member with inId | inRest
  · simp [key_of_mem_filledEntry inId, partNames]
  · simp only [List.mem_cons, List.not_mem_nil, or_false] at inRest
    rcases inRest with rfl | rfl | rfl | rfl
    · simp [partNames]
    · simp [partNames]
    · simp [partNames]
    · simp [partNames]

/-- What is sent for an item can be read as that item. -/
theorem read_encode {item : WireItem} (carried : Carried room item) :
    WireItem.read (room + 3) (Document.ofValue item.encode) = some item := by
  have encoded : item.encode = .object (item.knownEntries ++ item.extra) := by
    simp [encode, knownEntries]
  let parts := Parts.ofEntries (item.knownEntries ++ item.extra)
  have id : parts.defaulted (room + 3) 0 "id" Reader.string "" = some item.id := by
    rw [Parts.defaulted_ofEntries carried.extra _ _ _ (by simp [partNames])]
    simpa [knownEntries] using readPart_filledEntry "id" item.id (room + 2)
  have title : parts.required (room + 3) 1 "title" Reader.string = some item.title := by
    rw [Parts.required_ofEntries carried.extra _ _ _ (by simp [partNames])]
    simp [knownEntries, Parts.readPart, Document.ofValue, Reader.string]
  have category : parts.defaulted (room + 3) 2 "category" Reader.string "" =
      some item.category := by
    rw [Parts.defaulted_ofEntries carried.extra _ _ _ (by simp [partNames])]
    simp [knownEntries, Parts.readPart, Document.ofValue, Reader.string]
  have vaultId : parts.required (room + 3) 3 "vault" readVaultId = some item.vaultId := by
    rw [Parts.required_ofEntries carried.extra _ _ _ (by simp [partNames])]
    simp only [knownEntries, List.filter_append, filter_filledEntry]
    rfl
  have fields : parts.defaulted (room + 3) 4 "fields" (Reader.list WireField.read) [] =
      some item.fields := by
    rw [Parts.defaulted_ofEntries carried.extra _ _ _ (by simp [partNames])]
    simpa [knownEntries, Parts.readPart] using
      list_ofValue fun field member => WireField.read_encode (carried.fields field member)
  have extra : parts.others (room + 3) partNames = some item.extra :=
    Parts.others_ofEntries carried.extra item.knownEntries_parts
  unfold WireItem.read
  rw [encoded, Parts.ofMapping?_ofValue]
  simp only [Option.bind_eq_bind, Option.bind_some]
  simp only [parts] at id title category vaultId fields extra
  rw [id, title, category, vaultId, fields, extra]
  rfl

/-- The entries that an item was read with can be carried along. -/
theorem carried_of_read {item : WireItem} {document : Document}
    (read : WireItem.read (room + 3) document = some item) : Carried room item := by
  unfold WireItem.read at read
  simp only [Option.bind_eq_bind, Option.bind_eq_some_iff] at read
  obtain ⟨parts, _, id, _, title, _, category, _, vaultId, _, fields, isFields, extra, isExtra,
    isItem⟩ := read
  cases isItem
  refine ⟨Parts.carried_of_others isExtra, fun field member => ?_⟩
  rcases Parts.of_defaulted isFields with rfl | ⟨document, isList⟩
  · cases member
  · obtain ⟨source, isRead⟩ := of_mem_list isList member
    exact WireField.carried_of_read isRead

/-- Storing a value in an item that was read makes an item that can be sent and read. -/
theorem carried_ofItem_store {item : WireItem} (carried : Carried room item)
    (title value : String) :
    Carried room (ofItem { item.toItem with
      fields := Field.store title value item.toItem.fields }) := by
  refine ⟨carried.extra, ?_⟩
  intro field member
  obtain ⟨stored, storedMember, rfl⟩ := List.mem_map.mp member
  have extra : (WireField.ofField stored).extra = stored.extra := rfl
  rw [extra]
  rcases Field.extra_of_mem_store storedMember with none | ⟨old, oldMember, same⟩
  · rw [none]
    exact .nil WireField.partNames room
  · obtain ⟨source, sourceMember, rfl⟩ := List.mem_map.mp oldMember
    rw [same]
    exact carried.fields source sourceMember

end WireItem

end SecretRefs.Connect
