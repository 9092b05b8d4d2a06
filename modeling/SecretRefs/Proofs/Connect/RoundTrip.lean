import SecretRefs.Proofs.Connect.Codec
import SecretRefs.Proofs.Vault.Codec

/-!
# Reading what was written

Whatever document a vault, an item or a field is read from, it can be read from what is written for
it; a record in its stored form also from the sequence of its parts. A field or an item from the
server means the same once it was sent back, although parts that were missing may now be there.
-/

namespace SecretRefs.Connect

open Json

variable {room : Nat}

/-- What is read means the same when it is sent again, and what is sent can be read. -/
structure KeepsMeaning {Sent Meant : Type} (room : Nat) (reader : Reader Sent)
    (write : Sent → Json) (meant : Sent → Meant) (send : Meant → Sent) : Prop where
  meaning : ∀ document sent, reader room document = some sent →
    meant (send (meant sent)) = meant sent
  restored : ∀ document sent, reader room document = some sent →
    reader room (Document.ofValue (write (send (meant sent)))) = some (send (meant sent))

namespace WireField

theorem restores (room : Nat) : Restores (room + 1) WireField.read WireField.encode :=
  fun _ _ run => read_encode (carried_of_read run)

/-- A field means what its wire form does, if its kind is the one that its spelling names. -/
theorem toField_ofField {field : Field} (named : FieldKind.ofName field.kind.name = field.kind) :
    (ofField field).toField = field := by
  simp only [toField, ofField, Option.getD_some, Option.map_some, named]

theorem named_toField (field : WireField) :
    FieldKind.ofName field.toField.kind.name = field.toField.kind := by
  cases isKind : field.kind with
  | none => simp only [toField, isKind]; rfl
  | some name =>
    simp only [toField, isKind, Option.map_some, Option.getD_some, FieldKind.name_ofName]

theorem keepsMeaning (room : Nat) :
    KeepsMeaning (room + 1) WireField.read WireField.encode toField ofField where
  meaning _ field _ := toField_ofField field.named_toField
  restored _ field run := by
    have carried : Carried partNames room field.extra := carried_of_read run
    exact read_encode carried

end WireField

namespace WireItem

theorem restores (room : Nat) : Restores (room + 3) WireItem.read WireItem.encode :=
  fun _ _ run => read_encode (carried_of_read run)

theorem toItem_ofItem_toItem (item : WireItem) : (ofItem item.toItem).toItem = item.toItem := by
  have fields : WireField.toField ∘ WireField.ofField ∘ WireField.toField = WireField.toField :=
    funext fun field => WireField.toField_ofField field.named_toField
  simp only [toItem, ofItem, Category.name_ofName, List.map_map, fields]

/-- What is carried along is carried along by what is sent. -/
theorem carried_ofItem_toItem {item : WireItem} (carried : Carried room item) :
    Carried room (ofItem item.toItem) := by
  refine ⟨carried.extra, fun field member => ?_⟩
  obtain ⟨meant, isMeant, rfl⟩ := List.mem_map.mp member
  obtain ⟨source, inItem, rfl⟩ := List.mem_map.mp isMeant
  exact carried.fields source inItem

theorem keepsMeaning (room : Nat) :
    KeepsMeaning (room + 3) WireItem.read WireItem.encode toItem ofItem where
  meaning _ item _ := item.toItem_ofItem_toItem
  restored _ _ run := read_encode (carried_ofItem_toItem (carried_of_read run))

end WireItem

/-- With room for an item, each of the eight types can be read from what is written for what was
read, and fields and items keep their meaning on the way to the server and back. -/
theorem codecs_round_trip (deep : 4 ≤ room) :
    RestoresRecord room VaultSummary.read VaultSummary.encode ∧
    RestoresRecord room ItemSummary.read ItemSummary.encode ∧
    RestoresRecord room Item.read Item.encode ∧
    RestoresRecord room Field.read Field.encode ∧
    Restores room FieldKind.read FieldKind.encode ∧
    Restores room Category.read Category.encode ∧
    Restores room WireField.read WireField.encode ∧
    Restores room WireItem.read WireItem.encode ∧
    KeepsMeaning room WireField.read WireField.encode WireField.toField WireField.ofField ∧
    KeepsMeaning room WireItem.read WireItem.encode WireItem.toItem WireItem.ofItem := by
  obtain ⟨inner, rfl⟩ := Nat.exists_eq_add_of_le' deep
  exact ⟨VaultSummary.restores (inner + 3), ItemSummary.restores (inner + 3),
    Item.restores inner, Field.restores (inner + 2), FieldKind.restores (inner + 4),
    Category.restores (inner + 4), WireField.restores (inner + 3), WireItem.restores (inner + 1),
    WireField.keepsMeaning (inner + 3), WireItem.keepsMeaning (inner + 1)⟩

/-- An item on the wire with a null label, a repeated attribute and most of its parts missing, and
a stored item whose sequence ends early. -/
theorem mail_round_trips :
    let document : Document := .object
      [(some "title", .string (some "Mail")), (some "vault", .array [.string (some "v1")]),
        (some "fields", .array [.object [(some "label", .null), (some "purpose", .null)]]),
        (some "tags", .array []), (some "tags", .boolean true)]
    let sent : WireItem :=
      ⟨"", "Mail", "", "v1", [⟨"", none, none, none, [("purpose", .null)]⟩],
        [("tags", .boolean true)]⟩
    let sequence : Document := .array
      [.string (some "i1"), .string (some "v1"), .string (some "Mail"), .string (some "LOGIN")]
    let item : Item := ⟨"i1", "v1", "Mail", .login, [], []⟩
    WireItem.read Document.depthLimit document = some sent ∧
    WireItem.read Document.depthLimit (Document.ofValue sent.encode) = some sent ∧
    (WireItem.ofItem sent.toItem).toItem = sent.toItem ∧
    Item.read Document.depthLimit sequence = some item ∧
    Item.read Document.depthLimit (Document.ofValue item.encode.valuesOf) = some item := by
  intro document sent sequence item
  have deep : 4 ≤ Document.depthLimit := by decide
  obtain ⟨_, _, items, _, _, _, _, wireItems, _, meanings⟩ := codecs_round_trip deep
  have isSent : WireItem.read Document.depthLimit document = some sent := rfl
  have isItem : Item.read Document.depthLimit sequence = some item := rfl
  exact ⟨isSent, wireItems document sent isSent, meanings.meaning document sent isSent, isItem,
    items.placed sequence item isItem⟩

end SecretRefs.Connect
