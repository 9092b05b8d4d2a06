import SecretRefs.Proofs.Json.Record
import SecretRefs.Vault.Codec

/-!
# Vaults and items that are stored and read again

What was read is `Storable`: its kind or category is the one that its spelling names, and the
attributes carried along can be read. What is storable can be read from both forms that it has.
-/

namespace SecretRefs

open Json

/-! ## Spellings -/

theorem FieldKind.name_ofName (name : String) : (ofName name).name = name := by
  unfold ofName
  split <;> rfl

theorem Category.name_ofName (name : String) : (ofName name).name = name := by
  unfold ofName
  split <;> rfl

/-- A kind that was read is the one that its spelling names. -/
theorem FieldKind.ofName_of_read {room : Nat} {document : Document} {kind : FieldKind}
    (run : read room document = some kind) : ofName kind.name = kind := by
  obtain ⟨name, _, rfl⟩ := Option.map_eq_some_iff.mp run
  rw [name_ofName]

theorem Category.ofName_of_read {room : Nat} {document : Document} {category : Category}
    (run : read room document = some category) : ofName category.name = category := by
  obtain ⟨name, _, rfl⟩ := Option.map_eq_some_iff.mp run
  rw [name_ofName]

theorem FieldKind.read_encode {kind : FieldKind} (named : ofName kind.name = kind) (room : Nat) :
    read room (Document.ofValue kind.encode) = some kind :=
  congrArg some named

theorem Category.read_encode {category : Category} (named : ofName category.name = category)
    (room : Nat) : read room (Document.ofValue category.encode) = some category :=
  congrArg some named

theorem FieldKind.restores (room : Nat) : Restores room FieldKind.read FieldKind.encode :=
  fun _ _ run => read_encode (ofName_of_read run) room

theorem Category.restores (room : Nat) : Restores room Category.read Category.encode :=
  fun _ _ run => read_encode (ofName_of_read run) room

/-! ## Summaries -/

variable {room : Nat} {form : Json}

theorem VaultSummary.read_form {vault : VaultSummary}
    (isForm : form = vault.encode ∨ form = vault.encode.valuesOf) :
    read (room + 1) (Document.ofValue form) = some vault := by
  obtain ⟨parts, gives, isParts⟩ := Parts.exists_gives 2 rfl (by simp) isForm room
  have id := gives.required room 0 rfl Reader.string
  have title := gives.required room 1 rfl Reader.string
  unfold read
  rw [isParts]
  simp only [Option.bind_eq_bind, Option.bind_some]
  rw [id, title]
  rfl

theorem ItemSummary.read_form {item : ItemSummary}
    (named : Category.ofName item.category.name = item.category)
    (isForm : form = item.encode ∨ form = item.encode.valuesOf) :
    read (room + 1) (Document.ofValue form) = some item := by
  obtain ⟨parts, gives, isParts⟩ := Parts.exists_gives 3 rfl (by simp) isForm room
  have id := gives.required room 0 rfl Reader.string
  have title := gives.required room 1 rfl Reader.string
  have category := gives.required room 2 rfl Category.read
  unfold read
  rw [isParts]
  simp only [Option.bind_eq_bind, Option.bind_some]
  rw [id, title, category, Category.read_encode named]
  rfl

theorem ItemSummary.named_of_read {document : Document} {item : ItemSummary}
    (run : read room document = some item) :
    Category.ofName item.category.name = item.category := by
  simp only [read, Option.bind_eq_bind, Option.bind_eq_some_iff] at run
  obtain ⟨parts, _, id, _, title, _, category, isCategory, isItem⟩ := run
  cases isItem
  obtain ⟨source, isRead⟩ := Parts.of_required isCategory
  exact Category.ofName_of_read isRead

/-! ## Items -/

/-- A field that can be read from what is written for it. -/
structure Field.Storable (room : Nat) (field : Field) : Prop where
  named : FieldKind.ofName field.kind.name = field.kind
  extra : Readable room (.object field.extra)

/-- An item that can be read from what is written for it. -/
structure Item.Storable (room : Nat) (item : Item) : Prop where
  named : Category.ofName item.category.name = item.category
  fields : ∀ field ∈ item.fields, field.Storable room
  extra : Readable (room + 2) (.object item.extra)

theorem Field.read_form {field : Field} (storable : field.Storable room)
    (isForm : form = field.encode ∨ form = field.encode.valuesOf) :
    read (room + 1) (Document.ofValue form) = some field := by
  obtain ⟨parts, gives, isParts⟩ := Parts.exists_gives 5 rfl (by simp) isForm room
  have id := gives.defaulted room 0 rfl Reader.string ""
  have title := gives.required room 1 rfl Reader.string
  have value := gives.defaulted room 2 rfl Reader.string ""
  have kind := gives.required room 3 rfl FieldKind.read
  have extra := gives.defaulted room 4 rfl Reader.object []
  unfold read
  rw [isParts]
  simp only [Option.bind_eq_bind, Option.bind_some]
  rw [id, title, value, kind, extra, FieldKind.read_encode storable.named,
    object_of_readable storable.extra]
  rfl

theorem Field.storable_of_read {document : Document} {field : Field}
    (run : read (room + 2) document = some field) : field.Storable (room + 1) := by
  simp only [read, Option.bind_eq_bind, Option.bind_eq_some_iff] at run
  obtain ⟨parts, _, id, _, title, _, value, _, kind, isKind, extra, isExtra, isField⟩ := run
  cases isField
  obtain ⟨source, isRead⟩ := Parts.of_required isKind
  refine ⟨FieldKind.ofName_of_read isRead, ?_⟩
  rcases Parts.of_defaulted isExtra with rfl | ⟨source, isRead⟩
  · rfl
  · exact readable_of_object isRead

theorem Item.read_form {item : Item} (storable : item.Storable room)
    (isForm : form = item.encode ∨ form = item.encode.valuesOf) :
    read (room + 3) (Document.ofValue form) = some item := by
  obtain ⟨parts, gives, isParts⟩ := Parts.exists_gives 6 rfl (by simp) isForm (room + 2)
  have id := gives.required (room + 2) 0 rfl Reader.string
  have vaultId := gives.required (room + 2) 1 rfl Reader.string
  have title := gives.required (room + 2) 2 rfl Reader.string
  have category := gives.required (room + 2) 3 rfl Category.read
  have fields := gives.defaulted (room + 2) 4 rfl (Reader.list Field.read) []
  have extra := gives.defaulted (room + 2) 5 rfl Reader.object []
  have eachField : ∀ field ∈ item.fields,
      Field.read (room + 1) (Document.ofValue field.encode) = some field :=
    fun field member => Field.read_form (storable.fields field member) (.inl rfl)
  unfold read
  rw [isParts]
  simp only [Option.bind_eq_bind, Option.bind_some]
  rw [id, vaultId, title, category, fields, extra, Category.read_encode storable.named,
    list_ofValue eachField, object_of_readable storable.extra]
  rfl

theorem Item.storable_of_read {document : Document} {item : Item}
    (run : read (room + 4) document = some item) : item.Storable (room + 1) := by
  simp only [read, Option.bind_eq_bind, Option.bind_eq_some_iff] at run
  obtain ⟨parts, _, id, _, vaultId, _, title, _, category, isCategory, fields, isFields,
    extra, isExtra, isItem⟩ := run
  cases isItem
  obtain ⟨source, isRead⟩ := Parts.of_required isCategory
  refine ⟨Category.ofName_of_read isRead, fun field member => ?_, ?_⟩
  · rcases Parts.of_defaulted isFields with rfl | ⟨source, isRead⟩
    · cases member
    · obtain ⟨source, isRead⟩ := of_mem_list isRead member
      exact Field.storable_of_read isRead
  · rcases Parts.of_defaulted isExtra with rfl | ⟨source, isRead⟩
    · rfl
    · exact readable_of_object isRead

/-! ## Reading again -/

theorem VaultSummary.restores (room : Nat) :
    RestoresRecord (room + 1) VaultSummary.read VaultSummary.encode :=
  .of_forms fun _ _ _ _ isForm => read_form isForm

theorem ItemSummary.restores (room : Nat) :
    RestoresRecord (room + 1) ItemSummary.read ItemSummary.encode :=
  .of_forms fun _ _ _ run isForm => read_form (named_of_read run) isForm

theorem Field.restores (room : Nat) : RestoresRecord (room + 2) Field.read Field.encode :=
  .of_forms fun _ _ _ run isForm => read_form (storable_of_read run) isForm

theorem Item.restores (room : Nat) : RestoresRecord (room + 4) Item.read Item.encode :=
  .of_forms fun _ _ _ run isForm => read_form (storable_of_read run) isForm

end SecretRefs
