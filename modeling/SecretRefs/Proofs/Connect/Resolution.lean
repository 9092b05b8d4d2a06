import SecretRefs.Proofs.Connect.Server
import SecretRefs.Proofs.Turns
import SecretRefs.Proofs.Upsert.OnServer

/-!
# Resolving a reference on a server

A client resolves a reference by up to three requests. Which request is `Due` follows from the
responses so far, each of which `Says` something only if its status is a success and its body
can be read. `LeadsTo` has the responses that lead to a field: the first vault with the title,
the first item in it with the title, and in that item the field that the name `Selects`.

`Followed` has every way in which a resolution can go, by its turns and its result, and
`followed` says that there is no other, whatever the server responds. What is due, what is found
and what a failure names are read off it (`resolve_course`).
-/

namespace SecretRefs

/-- A field has a secret if its value is not empty. -/
theorem Field.secret?_eq_some_iff {field : Field} {secret : String} :
    field.secret? = some secret ↔ field.value = secret ∧ secret ≠ "" := by
  unfold Field.secret?
  split
  · rename_i empty
    simp only [reduceCtorEq, false_iff, not_and, not_not]
    rintro rfl
    simpa using empty
  · rename_i filled
    rw [Option.some.injEq]
    constructor
    · rintro rfl
      exact ⟨rfl, by simpa using filled⟩
    · exact And.left

namespace Connect

open Json

/-! ## First matches -/

/-- The first element of a list with a property. -/
def IsFirst {α : Type} (property : α → Prop) (list : List α) (element : α) : Prop :=
  ∃ before after, list = before ++ element :: after ∧ property element ∧
    ∀ earlier ∈ before, ¬ property earlier

/-- What a test finds is the first element with the property that it decides. -/
theorem find?_eq_some_iff_isFirst {α : Type} {test : α → Bool} {property : α → Prop}
    (decides : ∀ element, test element = true ↔ property element) {list : List α} {element : α} :
    list.find? test = some element ↔ IsFirst property list element := by
  rw [List.find?_eq_some_iff_append]
  constructor
  · rintro ⟨matched, before, after, split, earlier⟩
    refine ⟨before, after, split, (decides element).mp matched, fun one member holds => ?_⟩
    simpa [(decides one).mpr holds] using earlier one member
  · rintro ⟨before, after, split, holds, earlier⟩
    refine ⟨(decides element).mpr holds, before, after, split, fun one member => ?_⟩
    rw [Bool.not_eq_true', ← Bool.not_eq_true, decides]
    exact earlier one member

/-! ## Names of fields -/

/-- A field has a name as its label or its id, ignoring case. -/
def Named (name : String) (field : Field) : Prop :=
  Text.sameTitle field.title name = true ∨ Text.sameTitle field.id name = true

/-- A field is in the section of an item that has a name as its id or as a label, ignoring
case. -/
def InSection (item : Item) (name : String) (field : Field) : Prop :=
  ∃ place id, Json.find? "section" field.extra = some (.object place) ∧
    Json.find? "id" place = some (.string id) ∧
    (Text.sameTitle id name = true ∨
      ∃ sections entry label, Json.find? "sections" item.extra = some (.array sections) ∧
        Json.object entry ∈ sections ∧ Json.find? "id" entry = some (.string id) ∧
        Json.find? "label" entry = some (.string label) ∧ Text.sameTitle label name = true)

/-- The field that a name selects: the first with the name, or if there is none, the first in the
section before the last slash that has the name behind it. -/
inductive Selects (item : Item) (name : String) (field : Field) : Prop where
  | direct (isFirst : IsFirst (Named name) item.fields field)
  | inSection {place rest : String} (none : ∀ other ∈ item.fields, ¬ Named name other)
      (cut : name = place ++ "/" ++ rest) (last : '/' ∉ rest.toList)
      (isFirst : IsFirst (fun field => Named rest field ∧ InSection item place field) item.fields
        field)

theorem isNamed_iff {name : String} {field : Field} :
    isNamed name field = true ↔ Named name field :=
  Bool.or_eq_true_iff

/-- A text is cut at its last slash. -/
theorem cutLast?_eq_some_iff {text before after : String} :
    cutLast? text = some (before, after) ↔
      text = before ++ "/" ++ after ∧ '/' ∉ after.toList := by
  have reversed : text.toList.reverse = text.toList.reverse.takeWhile (· != '/') ++
      text.toList.reverse.dropWhile (· != '/') := List.takeWhile_append_dropWhile.symm
  constructor
  · intro cut
    unfold cutLast? at cut
    dsimp only at cut
    split at cut
    · cases cut
    · rename_i slash front dropped
      have isSlash : slash = '/' := by
        have headFails := List.head?_dropWhile_not (· != '/') text.toList.reverse
        rw [dropped] at headFails
        simpa using headFails
      obtain ⟨rfl, rfl⟩ := Prod.mk.inj (Option.some.inj cut)
      constructor
      · apply String.toList_injective
        rw [dropped, isSlash] at reversed
        simpa using congrArg List.reverse reversed
      · intro member
        rw [String.toList_ofList, List.mem_reverse] at member
        simpa using List.all_eq_true.mp List.all_takeWhile '/' member
  · rintro ⟨rfl, last⟩
    have other : ∀ c ∈ after.toList.reverse, (c != '/') = true := by
      intro c member
      rw [bne_iff_ne]
      rintro rfl
      exact last (List.mem_reverse.mp member)
    have split : (before ++ "/" ++ after).toList.reverse =
        after.toList.reverse ++ '/' :: before.toList.reverse := by
      simp
    unfold cutLast?
    dsimp only
    rw [split, List.dropWhile_append_of_pos other, List.takeWhile_append_of_pos other]
    simp

/-- What a mapping has under a key. -/
theorem get?_eq_some_iff {key : String} {tree value : Json} :
    tree.get? key = some value ↔
      ∃ entries, tree = .object entries ∧ Json.find? key entries = some value := by
  cases tree with
  | object entries => simp [Json.get?]
  | _ => simp [Json.get?]

theorem text?_eq_some_iff {tree : Json} {text : String} :
    tree.text? = some text ↔ tree = .string text := by
  cases tree with
  | string other => simp [Json.text?]
  | _ => simp [Json.text?]

theorem elements?_eq_some_iff {tree : Json} {elements : List Json} :
    tree.elements? = some elements ↔ tree = .array elements := by
  cases tree with
  | array other => simp [Json.elements?]
  | _ => simp [Json.elements?]

theorem sectionId?_eq_some_iff {field : Field} {id : String} :
    sectionId? field = some id ↔
      ∃ place, Json.find? "section" field.extra = some (.object place) ∧
        Json.find? "id" place = some (.string id) := by
  simp only [sectionId?, Option.bind_eq_bind, Option.bind_eq_some_iff, get?_eq_some_iff,
    text?_eq_some_iff]
  constructor
  · rintro ⟨_, hasSection, _, ⟨place, rfl, hasId⟩, rfl⟩
    exact ⟨place, hasSection, hasId⟩
  · rintro ⟨place, hasSection, hasId⟩
    exact ⟨.object place, hasSection, .string id, ⟨place, rfl, hasId⟩, rfl⟩

theorem mem_sectionLabels_iff {item : Item} {id label : String} :
    label ∈ sectionLabels item id ↔
      ∃ sections entry, Json.find? "sections" item.extra = some (.array sections) ∧
        Json.object entry ∈ sections ∧ Json.find? "id" entry = some (.string id) ∧
        Json.find? "label" entry = some (.string label) := by
  have textAt (key text : String) (tree : Json) : (tree.get? key).bind Json.text? = some text ↔
      ∃ entries, tree = .object entries ∧ Json.find? key entries = some (.string text) := by
    simp [Option.bind_eq_some_iff, get?_eq_some_iff, text?_eq_some_iff]
  simp only [sectionLabels, List.mem_filterMap, List.mem_filter, beq_iff_eq, textAt]
  constructor
  · rintro ⟨_, ⟨member, entry, rfl, hasId⟩, _, same, hasLabel⟩
    obtain rfl := Json.object.inj same
    cases found : (Json.find? "sections" item.extra).bind Json.elements? with
    | none => simp [found] at member
    | some sections =>
      rw [found] at member
      obtain ⟨tree, hasSections, isArray⟩ := Option.bind_eq_some_iff.mp found
      rw [elements?_eq_some_iff.mp isArray] at hasSections
      exact ⟨sections, entry, hasSections, member, hasId, hasLabel⟩
  · rintro ⟨sections, entry, hasSections, member, hasId, hasLabel⟩
    refine ⟨.object entry, ⟨?_, entry, rfl, hasId⟩, entry, rfl, hasLabel⟩
    simpa [hasSections, Json.elements?] using member

theorem isInSection_iff {item : Item} {name : String} {field : Field} :
    isInSection item name field = true ↔ InSection item name field := by
  unfold isInSection InSection
  constructor
  · intro inSection
    split at inSection
    · cases inSection
    · rename_i id isId
      obtain ⟨place, hasSection, hasId⟩ := sectionId?_eq_some_iff.mp isId
      refine ⟨place, id, hasSection, hasId, ?_⟩
      rcases Bool.or_eq_true_iff.mp inSection with sameId | hasLabel
      · exact .inl sameId
      · obtain ⟨label, isLabel, sameLabel⟩ := List.any_eq_true.mp hasLabel
        obtain ⟨sections, entry, hasSections, member, entryId, entryLabel⟩ :=
          mem_sectionLabels_iff.mp isLabel
        exact .inr ⟨sections, entry, label, hasSections, member, entryId, entryLabel, sameLabel⟩
  · rintro ⟨place, id, hasSection, hasId, named⟩
    rw [sectionId?_eq_some_iff.mpr ⟨place, hasSection, hasId⟩, Bool.or_eq_true_iff]
    rcases named with sameId | ⟨sections, entry, label, hasSections, member, entryId, entryLabel,
      sameLabel⟩
    · exact .inl sameId
    · exact .inr (List.any_eq_true.mpr ⟨label, mem_sectionLabels_iff.mpr
        ⟨sections, entry, hasSections, member, entryId, entryLabel⟩, sameLabel⟩)

theorem selectField?_eq_some_iff {item : Item} {name : String} {field : Field} :
    selectField? item name = some field ↔ Selects item name field := by
  have first (field : Field) : item.fields.find? (isNamed name) = some field ↔
      IsFirst (Named name) item.fields field :=
    find?_eq_some_iff_isFirst fun _ => isNamed_iff
  have firstInSection (place rest : String) : (item.fields.find? fun field =>
      isNamed rest field && isInSection item place field) = some field ↔
        IsFirst (fun field => Named rest field ∧ InSection item place field) item.fields field :=
    find?_eq_some_iff_isFirst fun _ =>
      Bool.and_eq_true_iff.trans (and_congr isNamed_iff isInSection_iff)
  unfold selectField?
  cases direct : item.fields.find? (isNamed name) with
  | some other =>
    have isFirst := (first other).mp direct
    constructor
    · intro same
      exact .direct (Option.some.inj same ▸ isFirst)
    · rintro (isFirst | ⟨none, _, _, _⟩)
      · rw [← direct, (first field).mpr isFirst]
      · obtain ⟨before, after, split, named, _⟩ := isFirst
        exact absurd named (none other (by simp [split]))
  | none =>
    have unnamed : ∀ other ∈ item.fields, ¬ Named name other := fun other member named =>
      List.find?_eq_none.mp direct other member (isNamed_iff.mpr named)
    constructor
    · intro selected
      dsimp only at selected
      split at selected
      · cases selected
      · rename_i place rest isCut
        obtain ⟨cut, last⟩ := cutLast?_eq_some_iff.mp isCut
        exact .inSection unnamed cut last ((firstInSection place rest).mp selected)
    · rintro (isFirst | ⟨_, cut, last, isFirst⟩)
      · rw [(first field).mpr isFirst] at direct
        cases direct
      · rw [cutLast?_eq_some_iff.mpr ⟨cut, last⟩]
        exact (firstInSection _ _).mpr isFirst

/-! ## What responses lead to -/

/-- A response says a value to a reader: its status is a success, and the reader makes the value of
its body. -/
def Says {α : Type} (reader : Reader α) (response : Option Response) (value : α) : Prop :=
  ∃ given, response = some given ∧ 200 ≤ given.status ∧ given.status ≤ 299 ∧
    given.decode? reader = some value

/-- A request to a server with the response that it got. -/
abbrev Exchanged : Type :=
  Dialogue.Turn Request fun _ => Option Response

/-- A response lists elements, of which one is the first with a property. -/
def Lists {α : Type} (reader : Reader α) (property : α → Prop) (response : Option Response)
    (element : α) : Prop :=
  ∃ elements, Says (Reader.list reader) response elements ∧ IsFirst property elements element

/-- The first listed vault with the title that a reference names. -/
def VaultFor (reference : Reference) : Option Response → WireVault → Prop :=
  Lists WireVault.read fun vault => Text.sameTitle vault.name reference.vault = true

/-- The first listed item with the title that a reference names. -/
def ItemFor (reference : Reference) : Option Response → WireItemSummary → Prop :=
  Lists WireItemSummary.read fun item => Text.sameTitle item.title reference.item = true

/-- The field that the name of a reference selects in an item. -/
def FieldFor (reference : Reference) (response : Option Response) (field : Field) : Prop :=
  ∃ item, Says WireItem.read response item ∧ Selects item.toItem reference.field field

/-- The request that is to be made after earlier ones. Each of these must have led on. -/
inductive Due (client : Client) (reference : Reference) : List Exchanged → Request → Prop where
  | vaults : Due client reference [] (client.request .get "vaults" none)
  | items {asked : Request} {response : Option Response} {vault : WireVault}
      (isVault : VaultFor reference response vault) :
      Due client reference [⟨asked, response⟩]
        (client.request .get ("vaults/" ++ vault.id ++ "/items") none)
  | item {asked asked' : Request} {response response' : Option Response} {vault : WireVault}
      {listed : WireItemSummary} (isVault : VaultFor reference response vault)
      (isListed : ItemFor reference response' listed) :
      Due client reference [⟨asked, response⟩, ⟨asked', response'⟩]
        (client.request .get ("vaults/" ++ vault.id ++ "/items/" ++ listed.id) none)

/-- The responses to all three requests that lead to a field. -/
inductive LeadsTo (reference : Reference) : List Exchanged → Field → Prop where
  | field {asked asked' asked'' : Request} {response response' response'' : Option Response}
      {vault : WireVault} {listed : WireItemSummary} {field : Field}
      (isVault : VaultFor reference response vault)
      (isListed : ItemFor reference response' listed)
      (isField : FieldFor reference response'' field) :
      LeadsTo reference [⟨asked, response⟩, ⟨asked', response'⟩, ⟨asked'', response''⟩] field

/-! ## The ways of a resolution -/

/-- What a reader makes of a response. -/
def said? {α : Type} (reader : Reader α) (response : Option Response) : Option α :=
  (response.bind Response.document?).bind (reader Document.depthLimit)

theorem said?_eq_some_iff {α : Type} {reader : Reader α} {response : Option Response}
    {value : α} : said? reader response = some value ↔ Says reader response value := by
  unfold said? Says
  cases response with
  | none => simp
  | some given =>
    simp only [Option.bind_some, Option.some.injEq, exists_eq_left', Response.document?]
    split
    · rename_i success
      obtain ⟨low, high⟩ := Bool.and_eq_true_iff.mp success
      have decoded : (Document.ofBytes? given.body).bind (reader Document.depthLimit) =
          given.decode? reader := rfl
      rw [decoded]
      simp [of_decide_eq_true low, of_decide_eq_true high]
    · rename_i failure
      have outside : ¬ (200 ≤ given.status ∧ given.status ≤ 299) := by
        simpa [Response.isSuccess] using failure
      simp only [Option.bind_none, reduceCtorEq, false_iff]
      rintro ⟨low, high, _⟩
      exact outside ⟨low, high⟩

/-- What a test finds among what a response lists is the first element with the property that it
decides. -/
theorem find?_said?_eq_some_iff {α β : Type} {reader : Reader α} {convert : α → β}
    {test : β → Bool} {response : Option Response} {chosen : β} :
    ((said? (Reader.list reader) response).map (List.map convert)).bind (List.find? test) =
        some chosen ↔
      ∃ listed, Lists reader (fun element => test (convert element) = true) response listed ∧
        convert listed = chosen := by
  have first (elements : List α) (listed : α) : elements.find? (test ∘ convert) = some listed ↔
      IsFirst (fun element => test (convert element) = true) elements listed :=
    find?_eq_some_iff_isFirst fun _ => Iff.rfl
  simp only [Lists, Option.bind_map, Option.bind_eq_some_iff, said?_eq_some_iff,
    Function.comp_apply, List.find?_map, Option.map_eq_some_iff]
  constructor
  · rintro ⟨elements, said, listed, found, same⟩
    exact ⟨listed, ⟨elements, said, (first elements listed).mp found⟩, same⟩
  · rintro ⟨listed, ⟨elements, said, isFirst⟩, same⟩
    exact ⟨elements, said, listed, (first elements listed).mpr isFirst, same⟩

/-- The vault that a client takes for a reference. -/
def vaultFor? (reference : Reference) (response : Option Response) : Option VaultSummary :=
  ((said? (Reader.list WireVault.read) response).map (List.map WireVault.toVault)).bind
    (VaultSummary.find? reference.vault)

/-- The item that a client takes for a reference. -/
def itemFor? (reference : Reference) (response : Option Response) : Option ItemSummary :=
  ((said? (Reader.list WireItemSummary.read) response).map (List.map WireItemSummary.toItem)).bind
    (ItemSummary.find? reference.item)

/-- The field that a client takes for a reference. -/
def fieldFor? (reference : Reference) (response : Option Response) : Option Field :=
  ((said? WireItem.read response).map WireItem.toItem).bind fun item =>
    selectField? item reference.field

theorem vaultFor?_eq_some_iff {reference : Reference} {response : Option Response}
    {vault : VaultSummary} :
    vaultFor? reference response = some vault ↔
      ∃ listed, VaultFor reference response listed ∧ listed.toVault = vault :=
  find?_said?_eq_some_iff

theorem itemFor?_eq_some_iff {reference : Reference} {response : Option Response}
    {item : ItemSummary} :
    itemFor? reference response = some item ↔
      ∃ listed, ItemFor reference response listed ∧ listed.toItem = item :=
  find?_said?_eq_some_iff

theorem fieldFor?_eq_some_iff {reference : Reference} {response : Option Response}
    {field : Field} :
    fieldFor? reference response = some field ↔ FieldFor reference response field := by
  simp only [fieldFor?, FieldFor, Option.bind_map, Option.bind_eq_some_iff, said?_eq_some_iff,
    Function.comp_apply, selectField?_eq_some_iff]

/-- The turns of a resolution, with its result. -/
inductive Followed (client : Client) (reference : Reference) :
    List Exchanged → Except Failure String → Prop where
  | noVault {response : Option Response} (missing : vaultFor? reference response = none)
      (detail : String) :
      Followed client reference [⟨client.request .get Client.vaultsPath none, response⟩]
        (.error (.resolution reference.render detail))
  | noItem {response response' : Option Response} {vault : VaultSummary}
      (isVault : vaultFor? reference response = some vault)
      (missing : itemFor? reference response' = none) (detail : String) :
      Followed client reference
        [⟨client.request .get Client.vaultsPath none, response⟩,
          ⟨client.request .get (Client.itemsPath vault.id) none, response'⟩]
        (.error (.resolution reference.render detail))
  | noSecret {response response' response'' : Option Response} {vault : VaultSummary}
      {item : ItemSummary} (isVault : vaultFor? reference response = some vault)
      (isItem : itemFor? reference response' = some item)
      (missing : (fieldFor? reference response'').bind Field.secret? = none) (detail : String) :
      Followed client reference
        [⟨client.request .get Client.vaultsPath none, response⟩,
          ⟨client.request .get (Client.itemsPath vault.id) none, response'⟩,
          ⟨client.request .get (Client.itemPath vault.id item.id) none, response''⟩]
        (.error (.resolution reference.render detail))
  | secret {response response' response'' : Option Response} {vault : VaultSummary}
      {item : ItemSummary} {secret : String} (isVault : vaultFor? reference response = some vault)
      (isItem : itemFor? reference response' = some item)
      (isSecret : (fieldFor? reference response'').bind Field.secret? = some secret) :
      Followed client reference
        [⟨client.request .get Client.vaultsPath none, response⟩,
          ⟨client.request .get (Client.itemsPath vault.id) none, response'⟩,
          ⟨client.request .get (Client.itemPath vault.id item.id) none, response''⟩]
        (.ok secret)

section Run

variable {State α β γ : Type} {server : Server State} {state after : State}

/-- A program goes on with what it chooses of what it fetched. If it fetched nothing or has
nothing to choose, it fails in the name of the reference. -/
theorem Client.outcome_choose (reference : Reference) {exchange : Exchange α}
    {fault : ExchangeFault} {found : Option α}
    (run : Dialogue.outcome server exchange state = (Server.fetched fault found, after))
    (choose : α → Option β) (detail : String) (next : β → Client.Attempt γ) :
    Dialogue.outcome server (Client.towards reference exchange >>= fun value =>
        Client.expect reference (choose value) detail >>= next) state =
      (found.bind choose).elim
        (.error (.resolution reference.render
          (found.elim (Failure.ofExchange fault).message fun _ => detail)), after)
        fun chosen => Dialogue.outcome server (next chosen) after := by
  rw [Dialogue.outcome_bind, Client.outcome_towards, run]
  cases found with
  | none => rfl
  | some value =>
    change Dialogue.outcome server (Client.expect reference (choose value) detail >>= next)
      after = _
    rw [Dialogue.outcome_bind, Option.bind_some]
    cases choose value with
    | none => rfl
    | some chosen => rfl

/-- The response to a request for a path. -/
def Server.responds (client : Client) (server : Server State) (path : String) (state : State) :
    Option Response :=
  (server (client.request .get path none) state).1

/-- What a listing server serves. -/
theorem read?_recording (client : Client) (reader : Reader α) (path : String)
    (turns : List Exchanged) :
    Server.read? client (Dialogue.recording server) reader path (state, turns) =
      said? reader (server.responds client path state) := rfl

/-- Reading from a listing server is listed. -/
theorem afterReading_recording (client : Client) (path : String) (turns : List Exchanged) :
    Server.afterReading client (Dialogue.recording server) path (state, turns) =
      (server.afterReading client path state,
        turns ++ [⟨client.request .get path none, server.responds client path state⟩]) := rfl

/-- Every resolution goes in one of the ways. -/
theorem followed (client : Client) (server : Server State) (reference : Reference)
    (state : State) :
    Followed client reference (Dialogue.turns server (client.resolve reference) state)
      (Dialogue.outcome server (client.resolve reference) state).1 := by
  have same := Dialogue.outcome_recording server (client.resolve reference) state []
  -- One run on the listing server gives both the turns and the result.
  suffices whole : Followed client reference
      (Dialogue.outcome (Dialogue.recording server) (client.resolve reference) (state, [])).2.2
      (Dialogue.outcome (Dialogue.recording server) (client.resolve reference) (state, [])).1 by
    rwa [same] at whole
  clear same
  obtain ⟨_, listVaults⟩ :=
    Server.outcome_listVaults client (Dialogue.recording server) (state, [])
  rw [Server.vaults?, read?_recording, afterReading_recording] at listVaults
  rw [Client.resolve, Client.outcome_choose reference listVaults]
  generalize server.responds client Client.vaultsPath state = response
  generalize server.afterReading client Client.vaultsPath state = state
  cases isVault : vaultFor? reference response with
  | none =>
    rw [vaultFor?] at isVault
    rw [isVault]
    exact .noVault isVault _
  | some vault =>
    have chosen := isVault
    rw [vaultFor?] at chosen
    rw [chosen]
    dsimp only [Option.elim_some]
    obtain ⟨_, listItems⟩ := Server.outcome_listItems client (Dialogue.recording server) vault.id
      (state, [] ++ [⟨client.request .get Client.vaultsPath none, response⟩])
    rw [Server.items?, read?_recording, afterReading_recording] at listItems
    rw [Client.outcome_choose reference listItems]
    generalize server.responds client (Client.itemsPath vault.id) state = response'
    generalize server.afterReading client (Client.itemsPath vault.id) state = state
    cases isItem : itemFor? reference response' with
    | none =>
      rw [itemFor?] at isItem
      rw [isItem]
      exact .noItem isVault isItem _
    | some item =>
      have chosen := isItem
      rw [itemFor?] at chosen
      rw [chosen]
      dsimp only [Option.elim_some]
      obtain ⟨_, getItem⟩ := Server.outcome_getItem client (Dialogue.recording server) vault.id
        item.id (state, [] ++ [⟨client.request .get Client.vaultsPath none, response⟩] ++
          [⟨client.request .get (Client.itemsPath vault.id) none, response'⟩])
      rw [Server.item?, read?_recording, afterReading_recording] at getItem
      rw [Client.outcome_choose reference getItem]
      generalize server.responds client (Client.itemPath vault.id item.id) state = response''
      generalize server.afterReading client (Client.itemPath vault.id item.id) state = state
      cases isField : fieldFor? reference response'' with
      | none =>
        have missing : (fieldFor? reference response'').bind Field.secret? = none := by
          rw [isField]
          rfl
        rw [fieldFor?] at isField
        rw [isField]
        exact .noSecret isVault isItem missing _
      | some field =>
        have chosen := isField
        rw [fieldFor?] at chosen
        rw [chosen]
        dsimp only [Option.elim_some]
        have secret : (fieldFor? reference response'').bind Field.secret? = field.secret? := by
          rw [isField]
          rfl
        unfold Field.secret? at secret
        split at secret
        · rename_i empty
          rw [if_pos empty]
          exact .noSecret isVault isItem secret _
        · rename_i filled
          rw [if_neg filled]
          exact .secret isVault isItem secret

end Run

/-! ## What follows for every server -/

/-- The items of the vault of a reference are due behind the vaults. -/
theorem due_items {client : Client} {reference : Reference} {response : Option Response}
    {vault : VaultSummary} (isVault : vaultFor? reference response = some vault)
    {asked : Request} :
    Due client reference [⟨asked, response⟩]
      (client.request .get (Client.itemsPath vault.id) none) := by
  obtain ⟨listed, vaultFor, rfl⟩ := vaultFor?_eq_some_iff.mp isVault
  exact .items vaultFor

/-- The item of a reference is due behind the items of its vault. -/
theorem due_item {client : Client} {reference : Reference} {response response' : Option Response}
    {vault : VaultSummary} {item : ItemSummary}
    (isVault : vaultFor? reference response = some vault)
    (isItem : itemFor? reference response' = some item) {asked asked' : Request} :
    Due client reference [⟨asked, response⟩, ⟨asked', response'⟩]
      (client.request .get (Client.itemPath vault.id item.id) none) := by
  obtain ⟨vault, vaultFor, rfl⟩ := vaultFor?_eq_some_iff.mp isVault
  obtain ⟨listed, itemFor, rfl⟩ := itemFor?_eq_some_iff.mp isItem
  have path : Client.itemPath vault.id listed.id =
      "vaults/" ++ vault.id ++ "/items/" ++ listed.id := by
    apply String.toList_injective
    simp [Client.itemPath, Client.itemsPath]
  have due : Due client reference [⟨asked, response⟩, ⟨asked', response'⟩] _ :=
    .item vaultFor itemFor
  rwa [← path] at due

namespace Followed

variable {client : Client} {reference : Reference} {turns : List Exchanged}
  {result : Except Failure String}

theorem length_le (followed : Followed client reference turns result) : turns.length ≤ 3 := by
  cases followed with
  | noVault | noItem | noSecret | secret => simp

/-- Every request is due when it is made. -/
theorem due (followed : Followed client reference turns result) {place : Nat} {turn : Exchanged}
    (made : turns[place]? = some turn) : Due client reference (turns.take place) turn.query := by
  cases followed with
  | noVault missing =>
    rcases place with _ | place
    · cases made
      exact .vaults
    · cases made
  | noItem isVault missing =>
    rcases place with _ | _ | place
    · cases made
      exact .vaults
    · cases made
      exact due_items isVault
    · cases made
  | noSecret isVault isItem | secret isVault isItem =>
    rcases place with _ | _ | _ | place
    · cases made
      exact .vaults
    · cases made
      exact due_items isVault
    · cases made
      exact due_item isVault isItem
    · cases made

/-- Nothing is due at the end. -/
theorem not_due (followed : Followed client reference turns result) (request : Request) :
    ¬ Due client reference turns request := by
  intro due
  cases followed with
  | noVault missing =>
    cases due with
    | items isVault =>
      rw [vaultFor?_eq_some_iff.mpr ⟨_, isVault, rfl⟩] at missing
      cases missing
  | noItem _ missing =>
    cases due with
    | item _ isListed =>
      rw [itemFor?_eq_some_iff.mpr ⟨_, isListed, rfl⟩] at missing
      cases missing
  | noSecret | secret => cases due

/-- A secret is the value of the field that the responses lead to. -/
theorem eq_ok_iff (followed : Followed client reference turns result) (secret : String) :
    result = .ok secret ↔
      ∃ field, LeadsTo reference turns field ∧ field.value = secret ∧ secret ≠ "" := by
  cases followed with
  | noVault | noItem =>
    constructor
    · nofun
    · rintro ⟨_, ⟨⟩, _⟩
  | noSecret isVault isItem missing =>
    constructor
    · nofun
    · rintro ⟨field, leads, filled⟩
      cases leads with
      | field _ _ isField =>
        rw [fieldFor?_eq_some_iff.mpr isField, Option.bind_some,
          Field.secret?_eq_some_iff.mpr filled] at missing
        cases missing
  | secret isVault isItem isSecret =>
    obtain ⟨field, isField, isValue⟩ := Option.bind_eq_some_iff.mp isSecret
    obtain ⟨vault, vaultFor, rfl⟩ := vaultFor?_eq_some_iff.mp isVault
    obtain ⟨item, itemFor, rfl⟩ := itemFor?_eq_some_iff.mp isItem
    constructor
    · rintro ⟨⟩
      exact ⟨field, .field vaultFor itemFor (fieldFor?_eq_some_iff.mp isField),
        Field.secret?_eq_some_iff.mp isValue⟩
    · rintro ⟨other, leads, filled⟩
      cases leads with
      | field _ _ isOther =>
        rw [fieldFor?_eq_some_iff.mpr isOther, Option.bind_some,
          Field.secret?_eq_some_iff.mpr filled] at isSecret
        rw [Option.some.inj isSecret]

/-- A failure names the reference. -/
theorem failure_named (followed : Followed client reference turns result) {failure : Failure}
    (failed : result = .error failure) :
    ∃ detail, failure = .resolution reference.render detail := by
  cases followed with
  | noVault _ detail | noItem _ _ detail | noSecret _ _ _ detail =>
    exact ⟨detail, (Except.error.inj failed).symm⟩
  | secret => cases failed

end Followed

/-- Whatever a server responds, a client that resolves a reference makes at most three requests.
Each of them is due at its time, and the last is followed by none that is due. It gives a secret
exactly if the responses lead to a field with that value, which is not empty, and every failure
is one to resolve the reference. -/
theorem resolve_course {State : Type} (client : Client) (server : Server State)
    (reference : Reference) (state : State) :
    let turns := Dialogue.turns server (client.resolve reference) state
    let result := (Dialogue.outcome server (client.resolve reference) state).1
    turns.length ≤ 3 ∧
      (∀ place turn, turns[place]? = some turn →
        Due client reference (turns.take place) turn.query) ∧
      (∀ request, ¬ Due client reference turns request) ∧
      (∀ secret, result = .ok secret ↔
        ∃ field, LeadsTo reference turns field ∧ field.value = secret ∧ secret ≠ "") ∧
      ∀ failure, result = .error failure →
        ∃ detail, failure = .resolution reference.render detail := by
  intro turns result
  have course : Followed client reference turns result := followed client server reference state
  exact ⟨course.length_le, fun _ _ => course.due, course.not_due, course.eq_ok_iff,
    fun _ => course.failure_named⟩

end Connect

end SecretRefs
