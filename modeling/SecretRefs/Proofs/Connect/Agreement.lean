import SecretRefs.Proofs.Equality
import SecretRefs.Proofs.Upsert.OnServer
import SecretRefs.Proofs.Upsert.InMemory

/-!
# A client beside a store in memory

A client of a server that shows the content of a store in memory (`Server.Shows`) follows a
reference to the same item as the store does. The two differ in the field that they take. Both
take the first field with the title; besides, the store takes a field by its exact id, and the
client by an id that differs in case, and where no field has the name it looks for a section.
A field that the client takes in this way is `diverted?` from the store's choice, and
`resolve_agrees_iff` says that the two answer alike just if no diverted field reads otherwise
than what the store would have taken.
-/

namespace SecretRefs

/-- A field without its kind. -/
def Field.unkinded (field : Field) : Field :=
  { field with kind := .text }

namespace Connect

variable {State : Type} {client : Client} {server : Server State} {memory : Store.Memory}
  {name : String} {item other : Item}

/-! ## The fields that the two take -/

/-- The first element with a property is one ahead of those with a stronger property, or the
first of these. -/
theorem find?_eq_or_of_imp {α : Type} {strong weak : α → Bool}
    (imp : ∀ element, strong element = true → weak element = true) (list : List α) :
    list.find? weak =
      ((list.takeWhile fun element => !strong element).find? weak).or (list.find? strong) := by
  induction list with
  | nil => rfl
  | cons first rest inductionHypothesis =>
    by_cases isStrong : strong first = true
    · have isWeak : weak first = true := imp first isStrong
      simp [isStrong, isWeak]
    · by_cases isWeak : weak first = true
      · simp [isStrong, isWeak]
      · simpa [isStrong, isWeak] using inductionHypothesis

/-- The first elements with a property of what two lists are mapped to. -/
theorem map_find?_of_map_eq {α β γ : Type} {left : List α} {right : List β} {f : α → γ}
    {g : β → γ} (same : left.map f = right.map g) (test : γ → Bool) :
    (left.find? (test ∘ f)).map f = (right.find? (test ∘ g)).map g := by
  rw [← List.find?_map, ← List.find?_map, same]

/-- Whether a store in memory takes a field for a name: by title, or by its exact id. -/
def goesBy (name : String) (field : Field) : Bool :=
  Field.titled name field || field.id == name

/-- The field in a section that a name with a slash selects. -/
def sectionField? (item : Item) (name : String) : Option Field :=
  (cutLast? name).bind fun (place, name) =>
    item.fields.find? fun field => isNamed name field && isInSection item place field

/-- The field that a client takes where a store in memory takes another one or none: ahead of
the store's choice one whose id is the name in another case, or if there is no choice, one in a
section. -/
def diverted? (item : Item) (name : String) : Option Field :=
  ((item.fields.takeWhile fun field => !goesBy name field).find? (isNamed name)).or
    (if item.fields.any (goesBy name) then none else sectionField? item name)

/-- A client takes every field that a store in memory takes. -/
theorem isNamed_of_goesBy {field : Field} (goes : goesBy name field = true) :
    isNamed name field = true := by
  rcases Bool.or_eq_true_iff.mp goes with titled | sameId
  · exact Bool.or_eq_true_iff.mpr (.inl titled)
  · rw [isNamed, eq_of_beq sameId, Text.sameTitle_self, Bool.or_true]

/-- A client takes the diverted field, and otherwise what a store in memory takes. -/
theorem selectField?_eq_or (item : Item) (name : String) :
    selectField? item name = (diverted? item name).or (item.fields.find? (goesBy name)) := by
  have either : selectField? item name =
      (item.fields.find? (isNamed name)).or (sectionField? item name) := by
    unfold selectField? sectionField?
    cases item.fields.find? (isNamed name) with
    | some field => rfl
    | none =>
      cases cutLast? name with
      | none => rfl
      | some cut => rfl
  rw [either, find?_eq_or_of_imp fun field => isNamed_of_goesBy, diverted?]
  cases taken : item.fields.find? (goesBy name) with
  | none =>
    have noneGoes : item.fields.any (goesBy name) = false := by
      rw [← Bool.not_eq_true, List.any_eq_true]
      rintro ⟨field, member, goes⟩
      exact List.find?_eq_none.mp taken field member goes
    simp [noneGoes]
  | some field =>
    have oneGoes : item.fields.any (goesBy name) = true :=
      List.any_eq_true.mpr ⟨field, List.mem_of_find?_eq_some taken, List.find?_some taken⟩
    simp [oneGoes]

/-- The secret that a client takes is the one that a store in memory takes, just if a diverted
field has the same. -/
theorem secret_eq_iff (item : Item) (name : String) :
    (selectField? item name).bind Field.secret? =
        (item.fields.find? (goesBy name)).bind Field.secret? ↔
      ∀ field, diverted? item name = some field →
        field.secret? = (item.fields.find? (goesBy name)).bind Field.secret? := by
  rw [selectField?_eq_or]
  cases diverted? item name with
  | none => simp
  | some field => simp

/-! ## A server that shows a store -/

/-- A server that shows the content of a store in memory, as long as it is only read: the same
vaults, items and fields in the same order, with their ids, titles, values and attributes. -/
structure Server.Shows (client : Client) (server : Server State) (memory : Store.Memory)
    (shown : State → Prop) : Prop where
  /-- Reading does not change what is shown. -/
  reading : ∀ path state, shown state → shown (server.afterReading client path state)
  /-- The vaults are listed. -/
  vaults : ∀ state, shown state → (server.vaults? client state).map (List.map WireVault.toVault) =
    some memory.vaults
  /-- The items of a vault are listed. -/
  items : ∀ state, shown state → ∀ shelf ∈ memory.shelves,
    (server.items? client shelf.vault.id state).map (List.map fun listed =>
      (listed.id, listed.title)) = some (shelf.items.map fun item => (item.id, item.title))
  /-- An item is served with its fields. -/
  item : ∀ state, shown state → ∀ shelf ∈ memory.shelves, ∀ item ∈ shelf.items,
    ∃ wire, server.item? client shelf.vault.id item.id state = some wire ∧
      wire.extra = item.extra ∧
      wire.toItem.fields.map Field.unkinded = item.fields.map Field.unkinded

/-- What a name selects does not depend on the kinds of the fields. -/
theorem unkinded_selectField? (sameExtra : item.extra = other.extra)
    (sameFields : item.fields.map Field.unkinded = other.fields.map Field.unkinded) :
    (selectField? item name).map Field.unkinded = (selectField? other name).map Field.unkinded := by
  have direct : (item.fields.find? (isNamed name)).map Field.unkinded =
      (other.fields.find? (isNamed name)).map Field.unkinded :=
    map_find?_of_map_eq sameFields (isNamed name)
  have inSection (place name : String) :
      (item.fields.find? fun field => isNamed name field && isInSection item place field).map
          Field.unkinded =
        (other.fields.find? fun field => isNamed name field && isInSection other place field).map
          Field.unkinded := by
    have sameLabels : sectionLabels item = sectionLabels other := by
      unfold sectionLabels
      rw [sameExtra]
    have sameSection : isInSection item = isInSection other := by
      unfold isInSection
      rw [sameLabels]
    rw [sameSection]
    exact map_find?_of_map_eq sameFields fun field =>
      isNamed name field && isInSection other place field
  unfold selectField?
  generalize item.fields.find? (isNamed name) = left at direct ⊢
  generalize other.fields.find? (isNamed name) = right at direct ⊢
  cases left with
  | some field =>
    cases right with
    | some otherField => exact direct
    | none => cases direct
  | none =>
    cases right with
    | some otherField => cases direct
    | none =>
      cases cutLast? name with
      | none => rfl
      | some cut => exact inSection cut.1 cut.2

/-- The secret that a name selects does not depend on the kinds of the fields. -/
theorem secret_selectField? (sameExtra : item.extra = other.extra)
    (sameFields : item.fields.map Field.unkinded = other.fields.map Field.unkinded) :
    (selectField? item name).bind Field.secret? = (selectField? other name).bind Field.secret? := by
  have unkinded (found : Option Field) :
      found.bind Field.secret? = (found.map Field.unkinded).bind Field.secret? := by
    rw [Option.bind_map]
    rfl
  rw [unkinded, unkinded_selectField? sameExtra sameFields, ← unkinded]

namespace Server

variable {shown : State → Prop} {state : State}

/-- The items with a title are found under the same ids. -/
theorem Shows.listedTitled? (shows : server.Shows client memory shown) (isShown : shown state)
    {shelf : Store.Shelf} (member : shelf ∈ memory.shelves) (title : String) :
    (server.listedTitled? client shelf.vault.id title state).map ItemSummary.id =
      (shelf.items.find? fun item => Text.sameTitle item.title title).map Item.id := by
  obtain ⟨items, isItems, sameItems⟩ :=
    Option.map_eq_some_iff.mp (shows.items state isShown shelf member)
  have sameFound := map_find?_of_map_eq sameItems
    fun (_, listedTitle) => Text.sameTitle listedTitle title
  rw [Server.listedTitled?, isItems, Option.bind_some, ItemSummary.find?, List.find?_map,
    Option.map_map]
  exact (Option.map_map Prod.fst _ _).symm.trans
    ((congrArg (Option.map Prod.fst) sameFound).trans (Option.map_map Prod.fst _ _))

/-- A client resolves a reference to the field that its name selects in the item that the
store has under the title. -/
theorem Shows.toOption_resolve (shows : server.Shows client memory shown) (isShown : shown state)
    (reference : Reference) :
    (client.backend server (.resolve reference) state).1.toOption =
      (memory.itemTitled? reference.vault reference.item).bind fun item =>
        (selectField? item reference.field).bind Field.secret? := by
  have vaultsRead := shows.reading Client.vaultsPath state isShown
  have vaultTitled : server.vaultTitled? client reference.vault state =
      (memory.shelfTitled? reference.vault).map Store.Shelf.vault := by
    obtain ⟨vaults, isVaults, sameVaults⟩ := Option.map_eq_some_iff.mp (shows.vaults state isShown)
    rw [vaultTitled?, isVaults, Option.bind_some, sameVaults, Store.Memory.find?_vaults]
  rw [Server.toOption_resolve, vaultTitled, Option.bind_map, Store.Memory.itemTitled?]
  refine (Option.bind_congr fun shelf found => ?_).trans (Option.bind_assoc _ _ _).symm
  have member : shelf ∈ memory.shelves := List.mem_of_find?_eq_some found
  have itemsRead := shows.reading (Client.itemsPath shelf.vault.id) _ vaultsRead
  have sameListed := shows.listedTitled? vaultsRead member reference.item
  rw [Function.comp_apply]
  dsimp only
  generalize server.listedTitled? client shelf.vault.id reference.item
    (server.afterReading client Client.vaultsPath state) = listed at sameListed ⊢
  cases itemFound : shelf.items.find? fun item => Text.sameTitle item.title reference.item with
  | none =>
    rw [itemFound, Option.map_none, Option.map_eq_none_iff] at sameListed
    rw [sameListed]
    rfl
  | some item =>
    rw [itemFound, Option.map_some] at sameListed
    obtain ⟨listed, rfl, sameId⟩ := Option.map_eq_some_iff.mp sameListed
    obtain ⟨wire, isWire, sameExtra, sameFields⟩ :=
      shows.item _ itemsRead shelf member item (List.mem_of_find?_eq_some itemFound)
    rw [Option.bind_some, sameId, isWire, Option.bind_some, Option.bind_some]
    exact secret_selectField? sameExtra sameFields

end Server

end Connect

namespace Store.Memory

/-- A store in memory resolves a reference to the field that goes by its name in the item with
the title. -/
theorem toOption_resolve (memory : Memory) (reference : Reference)
    (permitted : memory.failures.lookup .resolve = none) :
    (answer (.resolve reference) memory).1.toOption =
      (memory.itemTitled? reference.vault reference.item).bind fun item =>
        (item.fields.find? (Connect.goesBy reference.field)).bind Field.secret? := by
  rw [answer_of_permitted memory (.resolve reference) permitted]
  change (memory.lookup reference).toOption = _
  unfold lookup itemTitled?
  cases memory.shelfTitled? reference.vault with
  | none => rfl
  | some shelf =>
    dsimp only [Option.bind_eq_bind, Option.bind_some]
    cases shelf.items.find? fun item => Text.sameTitle item.title reference.item with
    | none => rfl
    | some item =>
      have named : (item.fields.find? fun field =>
          Text.sameTitle field.title reference.field || field.id == reference.field) =
            item.fields.find? (Connect.goesBy reference.field) := rfl
      dsimp only
      rw [Option.bind_some, named]
      cases item.fields.find? (Connect.goesBy reference.field) with
      | none => rfl
      | some field =>
        rw [Option.bind_some, Field.secret?]
        dsimp only
        split
        · rfl
        · rfl

end Store.Memory

/-- A client of a server that shows a store in memory gives for a reference the secret that the
store gives, just if in the item of the reference no diverted field reads otherwise than the
field that the store takes. -/
theorem resolve_agrees_iff {State : Type} {client : Connect.Client}
    {server : Connect.Server State} {memory : Store.Memory} {shown : State → Prop} {state : State}
    (shows : server.Shows client memory shown) (isShown : shown state)
    (permitted : memory.failures.lookup .resolve = none) (reference : Reference) :
    (∀ secret, (Dialogue.outcome server (client.resolve reference) state).1 = .ok secret ↔
        (Store.Memory.answer (.resolve reference) memory).1 = .ok secret) ↔
      ∀ item field, memory.itemTitled? reference.vault reference.item = some item →
        Connect.diverted? item reference.field = some field →
          field.secret? =
            (item.fields.find? (Connect.goesBy reference.field)).bind Field.secret? := by
  have alike : (∀ secret, (Dialogue.outcome server (client.resolve reference) state).1 =
      .ok secret ↔ (Store.Memory.answer (.resolve reference) memory).1 = .ok secret) ↔
      (client.backend server (.resolve reference) state).1.toOption =
        (Store.Memory.answer (.resolve reference) memory).1.toOption := by
    rw [Option.ext_iff]
    exact forall_congr' fun secret => iff_congr Failure.eq_ok_iff Failure.eq_ok_iff
  rw [alike, shows.toOption_resolve isShown,
    Store.Memory.toOption_resolve memory reference permitted]
  cases memory.itemTitled? reference.vault reference.item with
  | none => simp
  | some item =>
    rw [Option.bind_some, Option.bind_some, Connect.secret_eq_iff]
    constructor
    · rintro same other field ⟨⟩
      exact same field
    · intro same field
      exact same item field rfl

/-! ## A store with one item and a server that shows it -/

namespace Connect.Mirror

open Json

/-- An item with one field, which is in a section. -/
def item : Item where
  id := "item-2"
  vaultId := "vault-1"
  title := "Mail"
  category := .apiCredential
  fields := [⟨"field-3", "token", "old", .concealed, [("section", .object [("id", .string "s")])]⟩]
  extra := [("sections", .array [.object [("id", .string "s"), ("label", .string "Login")]])]

/-- A store in which the item has got its section. -/
def memory : Store.Memory :=
  (Store.Memory.answer (.putItem item)
    (Store.Memory.empty.addItem "Work" "Mail" [("token", "old")]).2).2

theorem reachable_memory : Store.Memory.Reachable memory :=
  .call (.putItem item) (.addItem "Work" "Mail" [("token", "old")] .empty)

/-- A client of the server. -/
def client : Client := ⟨"http://c", "t", 30⟩

/-- The text of the vaults. -/
def vaultsText : String := "[\x7b\"id\":\"vault-1\",\"name\":\"Work\"\x7d]"

/-- The text of the items. -/
def itemsText : String := "[\x7b\"id\":\"item-2\",\"title\":\"Mail\"\x7d]"

/-- The text of the item. -/
def itemText : String :=
  "\x7b\"id\":\"item-2\",\"title\":\"Mail\",\"vault\":\x7b\"id\":\"vault-1\"\x7d,
    \"fields\":[\x7b\"id\":\"field-3\",\"label\":\"token\",\"value\":\"old\",
    \"section\":\x7b\"id\":\"s\"\x7d\x7d],
    \"sections\":[\x7b\"id\":\"s\",\"label\":\"Login\"\x7d]\x7d"

/-- The text at an address. -/
def textAt? (url : String) : Option String :=
  if url = "http://c/v1/vaults" then some vaultsText
  else if url = "http://c/v1/vaults/vault-1/items" then some itemsText
  else if url = "http://c/v1/vaults/vault-1/items/item-2" then some itemText
  else none

/-- A server that says these texts. -/
def server : Server Unit := fun request state =>
  ((textAt? request.url).map fun text => ⟨200, text.toUTF8⟩, state)

theorem read?_eq {α : Type} (reader : Reader α) (path : String) :
    server.read? client reader path () =
      (textAt? ("http://c/v1/" ++ path)).bind reader.ofText? := by
  have url : "http://c" ++ "/v1/" ++ path = "http://c/v1/" ++ path := rfl
  simp only [Server.read?, Server.document?, server, Client.request, client, url]
  cases textAt? ("http://c/v1/" ++ path) with
  | none => rfl
  | some text =>
    rw [Option.map_some, Option.bind_some, Option.bind_some, Response.document?_text]
    rfl

/-- The store has one vault with the item. -/
theorem shelves_memory : memory.shelves = [⟨⟨"vault-1", "Work"⟩, [item]⟩] :=
  rfl

/-- The item as the server serves it, without a category and without kinds. -/
def wire : WireItem :=
  { WireItem.ofItem item with
    category := ""
    fields := item.fields.map fun field => { WireField.ofField field with kind := none } }

/-- The text of the item says the item. -/
theorem read_itemText : WireItem.read.ofText? itemText = some wire := by
  decide +kernel

/-- The server shows the store. -/
theorem shows : server.Shows client memory fun _ => True where
  reading _ _ _ := trivial
  vaults _ _ := by
    have text : textAt? ("http://c/v1/" ++ Client.vaultsPath) = some vaultsText := by decide
    have said : Reader.ofText? (Reader.list WireVault.read) vaultsText =
        some [⟨"vault-1", "Work"⟩] := by
      decide +kernel
    rw [Server.vaults?, read?_eq, Store.Memory.vaults, shelves_memory, text, Option.bind_some,
      said]
    rfl
  items _ _ shelf member := by
    have text : textAt? ("http://c/v1/" ++ Client.itemsPath "vault-1") = some itemsText := by
      decide
    have said : Reader.ofText? (Reader.list WireItemSummary.read) itemsText =
        some [⟨"item-2", "Mail", ""⟩] := by
      decide +kernel
    rw [shelves_memory, List.mem_singleton] at member
    rw [member, Server.items?, read?_eq, text, Option.bind_some, said]
    rfl
  item _ _ shelf member stored isStored := by
    have text : textAt? ("http://c/v1/" ++ Client.itemPath "vault-1" "item-2") =
        some itemText := by
      decide +kernel
    rw [shelves_memory, List.mem_singleton] at member
    rw [member, List.mem_singleton] at isStored
    rw [member, isStored]
    refine ⟨wire, ?_, rfl, rfl⟩
    rw [Server.item?, read?_eq]
    change (textAt? ("http://c/v1/" ++ Client.itemPath "vault-1" "item-2")).bind _ = _
    rw [text, Option.bind_some, read_itemText]

end Connect.Mirror

/-- A secret that goes by the name is resolved alike. -/
theorem token_resolve_agrees :
    (Dialogue.outcome Connect.Mirror.server (Connect.Mirror.client.resolve
        ⟨"work", "mail", "TOKEN"⟩) ()).1 = .ok "old" ∧
      (Store.Memory.answer (.resolve ⟨"work", "mail", "TOKEN"⟩) Connect.Mirror.memory).1 =
        .ok "old" := by
  have inMemory : (Store.Memory.answer (.resolve ⟨"work", "mail", "TOKEN"⟩)
      Connect.Mirror.memory).1 = .ok "old" := by
    decide +kernel
  refine ⟨((resolve_agrees_iff Connect.Mirror.shows trivial rfl ⟨"work", "mail", "TOKEN"⟩).mpr
    ?_ "old").mpr inMemory, inMemory⟩
  intro item field found diverted
  have isItem : Connect.Mirror.memory.itemTitled? "work" "mail" = some Connect.Mirror.item := by
    decide +kernel
  have noneDiverted : (Connect.diverted? Connect.Mirror.item "TOKEN").isNone = true := by
    decide +kernel
  rw [isItem, Option.some.injEq] at found
  rw [← found] at diverted
  rw [diverted] at noneDiverted
  cases noneDiverted

/-- A name that is the id in another case, and one that names a section, lead a client to a
secret, and a store in memory with the same content to none. -/
theorem diverted_resolve_differs :
    Store.Memory.Reachable Connect.Mirror.memory ∧
      Connect.Mirror.server.Shows Connect.Mirror.client Connect.Mirror.memory (fun _ => True) ∧
      ∀ name ∈ ["FIELD-3", "login/token"],
        (Dialogue.outcome Connect.Mirror.server
            (Connect.Mirror.client.resolve ⟨"Work", "Mail", name⟩) ()).1 = .ok "old" ∧
          (Store.Memory.answer (.resolve ⟨"Work", "Mail", name⟩) Connect.Mirror.memory).1 =
            .error (.resolution ("op://Work/Mail/" ++ name) "field not found") := by
  refine ⟨Connect.Mirror.reachable_memory, Connect.Mirror.shows, fun name named => ⟨?_, ?_⟩⟩
  · have isItem : Connect.Mirror.memory.itemTitled? "Work" "Mail" = some Connect.Mirror.item := by
      decide +kernel
    have taken : ∀ name ∈ ["FIELD-3", "login/token"],
        (Connect.selectField? Connect.Mirror.item name).bind Field.secret? = some "old" := by
      decide +kernel
    refine Failure.eq_ok_iff.mpr
      ((Connect.Mirror.shows.toOption_resolve trivial ⟨"Work", "Mail", name⟩).trans ?_)
    rw [isItem, Option.bind_some]
    exact taken name named
  · revert name
    decide +kernel

end SecretRefs
