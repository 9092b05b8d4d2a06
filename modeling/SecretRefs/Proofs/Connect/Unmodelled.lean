import SecretRefs.Proofs.Connect.Attributes

/-!
# Attributes that are not modelled

A client sends an item back in the form of what it has read. `Attributes.SendsBack` says that an
object in what is sent has the attributes of an object in what was read, except those that are
modelled. It holds of the item and of each of its fields, which keep what they do not know. Of the
vault of an item only the id is kept, so it holds there exactly if there was nothing else
(`unmodelled_sent_back`).
-/

namespace SecretRefs.Connect

open Json

namespace Attributes

/-- The value of the last attribute with a name. -/
def Has (attributes : Attributes) (name : String) (value : Json) : Prop :=
  ∃ earlier document later, attributes = earlier ++ (some name, document) :: later ∧
    (∀ one ∈ later, one.1 ≠ some name) ∧ ∃ room, document.value? room = some value

/-- The attributes under other names than these have their values in what is sent. -/
def SendsBack (attributes : Attributes) (names : List String) (sent : Json) : Prop :=
  ∀ name ∉ names, attributes.named name ≠ [] →
    ∃ value, attributes.Has name value ∧ sent.get? name = some value

variable {attributes : Attributes} {names : List String} {name : String} {value : Json}
  {known extra read : Entries}

/-- Attributes that are collected one by one: a name has the value of its last attribute, or
what it had before if there is none. -/
theorem has_or_absent (start : Entries)
    (run : List.Forall₂ (fun one (entry : String × Json) => one.1 = some entry.1 ∧
      ∃ room, one.2.value? room = some entry.2) attributes read) (name : String) :
    let collected := read.foldl (fun collected entry => insert entry.1 entry.2 collected) start
    (∃ value, attributes.Has name value ∧ find? name collected = some value) ∨
      (∀ one ∈ attributes, one.1 ≠ some name) ∧ find? name collected = find? name start := by
  induction run generalizing start with
  | nil => exact .inr ⟨by simp, rfl⟩
  | @cons one entry attributes read isEntry _ inductionHypothesis =>
    obtain ⟨isKey, isValue⟩ := isEntry
    obtain ⟨key, document⟩ := one
    dsimp only at isKey isValue
    subst isKey
    rcases inductionHypothesis (insert entry.1 entry.2 start) with
      ⟨value, ⟨earlier, last, later, rfl, has⟩, found⟩ | ⟨absent, found⟩
    · exact .inl ⟨value, ⟨_ :: earlier, last, later, rfl, has⟩, found⟩
    · rw [find?_insert] at found
      by_cases same : name = entry.1
      · rw [if_pos same] at found
        subst same
        exact .inl ⟨entry.2, ⟨[], document, attributes, rfl, absent, isValue⟩, found⟩
      · rw [if_neg same] at found
        refine .inr ⟨List.forall_mem_cons.mpr ⟨?_, absent⟩, found⟩
        simpa using Ne.symm same

theorem mem_others {one : Option String × Document} (isNamed : one.1 = some name)
    (foreign : name ∉ names) (member : one ∈ attributes) : one ∈ attributes.others names := by
  refine List.mem_filter.mpr ⟨member, ?_⟩
  have unnamed : ∀ other ∈ names, name ≠ other := by
    rintro other isName rfl
    exact foreign isName
  simpa [isNamed] using unnamed

/-- What the attributes under other names have, the attributes have. -/
theorem Has.of_others (foreign : name ∉ names) (has : (attributes.others names).Has name value) :
    attributes.Has name value := by
  obtain ⟨earlier, document, later, isOthers, last, isValue⟩ := has
  obtain ⟨front, back, rfl, _, isBack⟩ := List.filter_eq_append_iff.mp isOthers
  obtain ⟨skipped, rest, rfl, _, _, isRest⟩ := List.filter_eq_cons_iff.mp isBack
  refine ⟨front ++ skipped, document, rest, by simp, ?_, isValue⟩
  intro one member isNamed
  have inLater : one ∈ later := isRest ▸ mem_others isNamed foreign member
  exact last one inLater isNamed

/-- Attributes that are kept are found behind the known entries. -/
theorem sendsBack_of_keeps (keeps : attributes.Keeps names extra)
    (knownNames : ∀ entry ∈ known, entry.1 ∈ names) :
    attributes.SendsBack names (.object (known ++ extra)) := by
  obtain ⟨read, run, rfl⟩ := keeps
  intro name foreign present
  rcases has_or_absent [] run name with ⟨value, has, found⟩ | ⟨absent, _⟩
  · have notKnown : name ∉ known.map Prod.fst := by
      intro isKnown
      obtain ⟨entry, member, rfl⟩ := List.mem_map.mp isKnown
      exact foreign (knownNames entry member)
    exact ⟨value, has.of_others foreign, (find?_append_of_foreign notKnown).trans found⟩
  · obtain ⟨document, member⟩ := List.exists_mem_of_ne_nil _ present
    obtain ⟨one, isOne, _⟩ := List.mem_map.mp member
    obtain ⟨inAttributes, isNamed⟩ := List.mem_filter.mp isOne
    replace isNamed : one.1 = some name := beq_iff_eq.mp isNamed
    exact absurd isNamed (absent one (mem_others isNamed foreign inAttributes))

/-- Where only an id is sent, nothing is lost exactly if there was nothing else. -/
theorem sendsBack_id_iff (attributes : Attributes) (id : Json) :
    attributes.SendsBack ["id"] (.object [("id", id)]) ↔
      ∀ name, attributes.named name ≠ [] → name = "id" := by
  constructor
  · intro sendsBack name present
    by_contra differs
    obtain ⟨value, _, found⟩ := sendsBack name (by simpa using differs) present
    rw [get?, find?_cons, if_neg differs] at found
    cases found
  · intro only name foreign present
    exact absurd (only name present) (by simpa using foreign)

end Attributes

/-- The form of a field sends back what is not modelled of it. -/
theorem FieldContent.sendsBack {content : FieldContent} {document : Document}
    (said : content.SaidBy document) :
    ∃ attributes : Attributes, document = .object attributes ∧
      attributes.SendsBack WireField.partNames content.form := by
  obtain ⟨_, _, _, _, extra⟩ := said
  refine ⟨_, rfl, Attributes.sendsBack_of_keeps extra (mem_names_of_known ?_)⟩
  exact fun name member => member

namespace ItemContent

variable {attributes : Attributes}

theorem get?_vault (content : ItemContent) :
    content.form.get? "vault" = some (.object [("id", .string content.vaultId)]) := by
  unfold form filledEntry
  split
  · rfl
  · rfl

theorem get?_fields (content : ItemContent) :
    content.form.get? "fields" = some (.array (content.fields.map FieldContent.form)) := by
  unfold form filledEntry
  split
  · rfl
  · rfl

/-- The fields of an item are those of its one list of them. -/
theorem HasFields.of_array {fields : List FieldContent} {documents : List Document}
    (has : HasFields attributes fields)
    (isFields : attributes.named "fields" = [.array documents]) :
    List.Forall₂ FieldContent.SaidBy fields documents := by
  cases has with
  | array only each =>
    rw [only] at isFields
    cases isFields
    exact each
  | missing none =>
    rw [none] at isFields
    cases isFields

end ItemContent

/-- With an item that was read, a client sends back every attribute that is not modelled, of the
item and of each field, where it was and with its value. Of the vault it sends the id and nothing
else. -/
theorem unmodelled_sent_back {room : Nat} {document : Document} {item : WireItem}
    (read : WireItem.read room document = some item) :
    let sent := (WireItem.ofItem item.toItem).encode
    ∃ attributes : Attributes, document = .object attributes ∧
      attributes.SendsBack WireItem.partNames sent ∧
      (∀ documents, attributes.named "fields" = [.array documents] →
        ∃ forms, sent.get? "fields" = some (.array forms) ∧
          List.Forall₂ (fun document form => ∃ inner : Attributes, document = .object inner ∧
            inner.SendsBack WireField.partNames form) documents forms) ∧
      (∀ inner : Attributes, attributes.named "vault" = [.object inner] →
        ∃ vault, sent.get? "vault" = some vault ∧
          (inner.SendsBack ["id"] vault ↔ ∀ name, inner.named name ≠ [] → name = "id")) := by
  intro sent
  have isForm : sent = (ItemContent.ofItem item.toItem).form := ItemContent.encode_ofItem _
  rw [isForm]
  obtain ⟨_, _, _, onlyVault, namesVault, fields, extra⟩ := ItemContent.saidBy_of_read read
  refine ⟨_, rfl, ?_, ?_, ?_⟩
  · refine Attributes.sendsBack_of_keeps extra (mem_names_of_known ?_)
    exact fun name member => member
  · intro documents isFields
    refine ⟨_, ItemContent.get?_fields _, List.forall₂_map_right_iff.mpr ?_⟩
    exact (fields.of_array isFields).flip.imp fun _ _ said => FieldContent.sendsBack said
  · intro inner _
    exact ⟨_, ItemContent.get?_vault _, inner.sendsBack_id_iff _⟩

/-- An item with repeated tags and a field with a purpose: the last tags are sent back. -/
theorem tags_sent_back :
    let attributes : Attributes :=
      [(some "title", .string (some "Mail")),
        (some "vault", .object [(some "id", .string (some "v1"))]),
        (some "fields", .array [.object [(some "purpose", .null)]]),
        (some "tags", .array []), (some "tags", .boolean true)]
    let item : WireItem :=
      ⟨"", "Mail", "", "v1", [⟨"", none, none, none, [("purpose", .null)]⟩],
        [("tags", .boolean true)]⟩
    let sent := (WireItem.ofItem item.toItem).encode
    WireItem.read Document.depthLimit (.object attributes) = some item ∧
      attributes.SendsBack WireItem.partNames sent ∧ sent.get? "tags" = some (.boolean true) := by
  intro attributes item sent
  have read : WireItem.read Document.depthLimit (.object attributes) = some item := rfl
  obtain ⟨_, isObject, sendsBack, _⟩ := unmodelled_sent_back read
  cases isObject
  exact ⟨read, sendsBack, rfl⟩

/-- The vault of an item has a name, and the name is not sent back. -/
theorem vault_name_lost :
    let vault : Attributes :=
      [(some "id", .string (some "v1")), (some "name", .string (some "Private"))]
    let document : Document := .object
      [(some "id", .string (some "i1")), (some "title", .string (some "T")),
        (some "category", .string (some "LOGIN")), (some "vault", .object vault),
        (some "fields", .array [])]
    let item : WireItem := ⟨"i1", "T", "LOGIN", "v1", [], []⟩
    WireItem.read Document.depthLimit document = some item ∧
      vault.Has "name" (.string "Private") ∧
      ∃ sent, (WireItem.ofItem item.toItem).encode.get? "vault" = some sent ∧
        sent.get? "name" = none := by
  intro vault document item
  refine ⟨rfl, ?_, _, rfl, rfl⟩
  exact ⟨[(some "id", .string (some "v1"))], _, [], rfl, by simp, 0, rfl⟩

end SecretRefs.Connect
