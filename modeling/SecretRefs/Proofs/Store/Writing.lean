import SecretRefs.Proofs.Store.Answer
import SecretRefs.Proofs.Store.Numbering

/-!
# What operations write

A writing is an item as it was given to an operation that added, created or replaced it, with the
ids that the counter gave out to its fields without one. `Operation.writing?` reads it off the
answer and the ids that are given out, not off the shelves.

`Effect` says once what an operation does to the shelves, next to what it writes. The ids of a
writing are the last ones that its operation gives out (`given_of_writing?`), so what was given
out for the writings of a run was given out for nothing else (`givenIds_sublist`).
-/

namespace SecretRefs.Store.Memory

/-! ## Writings -/

/-- Fields with ids for those that have none, in order. -/
def fillIds : List Field → List String → List Field
  | [], _ => []
  | field :: rest, ids =>
    if field.id.isEmpty then { field with id := ids.headD "" } :: fillIds rest ids.tail
    else field :: fillIds rest ids

/-- An item that was written. -/
structure Writing where
  /-- The item as it was given, under its id and that of its vault. -/
  item : Item
  /-- The item was not there before. -/
  isNew : Bool
  /-- The ids that its fields without one got. -/
  fieldIds : List String

namespace Writing

/-- The item as it is to be kept. -/
def kept (writing : Writing) : Item :=
  { writing.item with fields := fillIds writing.item.fields writing.fieldIds }

@[simp] theorem kept_id (writing : Writing) : writing.kept.id = writing.item.id := rfl

/-- The ids that were given out for a writing. -/
def givenIds (writing : Writing) : List String :=
  (if writing.isNew then [writing.item.id] else []) ++ writing.fieldIds

/-- The writing is of the item with these ids. -/
def isOf (vaultId itemId : String) (writing : Writing) : Bool :=
  writing.item.vaultId == vaultId && writing.item.id == itemId

/-- The writing has made an item in a vault. -/
def isAddition (vaultId : String) (writing : Writing) : Bool :=
  writing.isNew && writing.item.vaultId == vaultId

end Writing

namespace Operation

/-- The ids that an operation gives out to the fields of an item. They are the last ones that it
gives out. -/
def fieldIds (operation : Operation) (memory : Memory) (fields : List Field) : List String :=
  let ids := operation.givesOut memory
  ids.drop (ids.length - fields.countP fun field => field.id.isEmpty)

/-- The item that an operation writes if it succeeds. -/
def writing? (operation : Operation) (memory : Memory) : Option Writing :=
  match operation with
  | .addItem vault title fields =>
    let concealed := fields.map fun (title, value) => Field.concealed title value
    let item : Item := ⟨(memory.addItem vault title fields).1, (memory.addVault vault).1, title,
      .apiCredential, concealed, []⟩
    some ⟨item, true, operation.fieldIds memory concealed⟩
  | .ask (.createItem item) =>
    (memory.answer (.createItem item)).1.toOption.map fun created =>
      ⟨⟨created.id, item.vaultId, item.title, item.category, item.fields, []⟩, true,
        operation.fieldIds memory item.fields⟩
  | .ask (.putItem item) =>
    (memory.answer (.putItem item)).1.toOption.map fun _ =>
      ⟨item, false, operation.fieldIds memory item.fields⟩
  | _ => none

end Operation

/-- The writings in the course of operations. -/
def writings : List Operation → Memory → List Writing
  | [], _ => []
  | operation :: rest, memory =>
    (operation.writing? memory).toList ++ writings rest (operation.act memory)

variable {memory : Memory} {writing : Writing}

/-! ## The ids of fields -/

/-- Each field without an id takes one. -/
theorem length_newIds (issued : Nat) (fields : List Field) :
    (newIds fields (numberFields issued fields).1).length =
      fields.countP fun field => field.id.isEmpty := by
  have counted := (moves_numberFields issued fields).counted
  rw [snd_numberFields] at counted
  omega

theorem newIds_cons (issued : Nat) (field : Field) (rest : List Field) :
    newIds (field :: rest) (numberFields issued (field :: rest)).1 =
      if field.id.isEmpty then
        idText "field" (issued + 1) :: newIds rest (numberFields (issued + 1) rest).1
      else newIds rest (numberFields issued rest).1 := by
  cases unnumbered : field.id.isEmpty with
  | true => simp [newIds, numberFields, unnumbered]
  | false => simp [newIds, numberFields, unnumbered]

/-- Numbering fills in the ids that it gives out. -/
theorem fillIds_newIds (issued : Nat) (fields : List Field) :
    fillIds fields (newIds fields (numberFields issued fields).1) =
      (numberFields issued fields).1 := by
  induction fields generalizing issued with
  | nil => rfl
  | cons field rest inductionHypothesis =>
    rw [newIds_cons]
    cases unnumbered : field.id.isEmpty with
    | true => simp [fillIds, numberFields, unnumbered, inductionHypothesis]
    | false => simp [fillIds, numberFields, unnumbered, inductionHypothesis]

/-- Ids that are given out to fields are ids of fields. -/
theorem isFieldId_of_mem_newIds {issued : Nat} {fields : List Field} {id : String}
    (member : id ∈ newIds fields (numberFields issued fields).1) :
    ∃ number, id = idText "field" number := by
  induction fields generalizing issued with
  | nil => cases member
  | cons field rest inductionHypothesis =>
    rw [newIds_cons] at member
    split at member
    · rcases List.mem_cons.mp member with rfl | later
      · exact ⟨issued + 1, rfl⟩
      · exact inductionHypothesis later
    · exact inductionHypothesis member

/-! ## What an operation does -/

namespace Writing

/-- The ids of a writing are the last ones that an operation gives out, and those of its fields
are as many as fields had none. -/
structure Given (writing : Writing) (operation : Operation) (memory : Memory) : Prop where
  counted : writing.fieldIds.length =
    writing.item.fields.countP fun field => field.id.isEmpty
  areFieldIds : ∀ id ∈ writing.fieldIds, ∃ number, id = idText "field" number
  givesOut : ∃ earlier, operation.givesOut memory = earlier ++ writing.givenIds

/-- The fields of a writing are numbered from a place of the counter on, last of all that an
operation does. -/
theorem given_of_numbered (writing : Writing) {operation : Operation} {issued : Nat}
    {earlier : List String}
    (isGiven : writing.fieldIds = operation.fieldIds memory writing.item.fields)
    (givesOut : operation.givesOut memory =
      (earlier ++ if writing.isNew then [writing.item.id] else []) ++
        Memory.newIds writing.item.fields (numberFields issued writing.item.fields).1) :
    writing.kept = { writing.item with fields := (numberFields issued writing.item.fields).1 } ∧
      writing.Given operation memory := by
  have fieldIds : writing.fieldIds =
      Memory.newIds writing.item.fields (numberFields issued writing.item.fields).1 := by
    rw [isGiven, Operation.fieldIds, givesOut, ← length_newIds issued writing.item.fields,
      List.length_append, Nat.add_sub_cancel, List.drop_left]
  refine ⟨by rw [kept, fieldIds, fillIds_newIds], ?_, ?_, earlier, ?_⟩
  · rw [fieldIds, length_newIds]
  · rw [fieldIds]
    exact fun id member => isFieldId_of_mem_newIds member
  · rw [givesOut, givenIds, fieldIds, List.append_assoc]

end Writing

theorem exists_shelf_addVault (title : String) (memory : Memory) :
    ∃ shelf ∈ (memory.addVault title).2.shelves, shelf.vault.id = (memory.addVault title).1 := by
  unfold addVault
  cases found : memory.shelfTitled? title with
  | some shelf => exact ⟨shelf, List.mem_of_find?_eq_some found, rfl⟩
  | none => exact ⟨_, List.mem_append_right _ List.mem_cons_self, rfl⟩

theorem newIdsAnswering_of_permitted (memory : Memory) (call : Call)
    (permitted : memory.failures.lookup call.kind = none) :
    memory.newIdsAnswering call = (memory.recorded [call.record]).newIdsPerforming call := by
  simp only [newIdsAnswering, enter, permitted]
  rfl

/-- What a creation writes is told by its answer. -/
theorem writing?_createItem {item : NewItem} {outcome : Except Failure Item}
    (answered : (memory.answer (.createItem item)).1 = outcome) :
    (Operation.ask (.createItem item)).writing? memory = outcome.toOption.map fun created =>
      ⟨⟨created.id, item.vaultId, item.title, item.category, item.fields, []⟩, true,
        (Operation.ask (.createItem item)).fieldIds memory item.fields⟩ := by
  subst answered
  rfl

/-- What a replacement writes is told by its answer. -/
theorem writing?_putItem {item : Item} {outcome : Except Failure Unit}
    (answered : (memory.answer (.putItem item)).1 = outcome) :
    (Operation.ask (.putItem item)).writing? memory = outcome.toOption.map fun _ =>
      ⟨item, false, (Operation.ask (.putItem item)).fieldIds memory item.fields⟩ := by
  subst answered
  rfl

/-- What an operation does to the shelves, next to what it writes. -/
inductive Effect (operation : Operation) (memory : Memory) : Option Writing → Prop where
  | idle (shelves : (operation.act memory).shelves = memory.shelves) :
      Effect operation memory none
  | vault (title : String)
      (shelves : (operation.act memory).shelves = (memory.addVault title).2.shelves) :
      Effect operation memory none
  /-- An item is added, in a vault that may have been added before. -/
  | addition {base : Memory} {shelf : Shelf} {writing : Writing}
      (isBase : base = memory ∨ ∃ title, base = (memory.addVault title).2)
      (there : shelf ∈ base.shelves) (isVault : shelf.vault.id = writing.item.vaultId)
      (isNew : writing.isNew = true)
      (isId : writing.item.id = idText "item" (base.issued + 1))
      (shelves : (operation.act memory).shelves =
        (base.updateItems writing.item.vaultId (· ++ [writing.kept])).shelves)
      (given : writing.Given operation memory) : Effect operation memory (some writing)
  | replacement {shelf : Shelf} {writing : Writing}
      (there : shelf ∈ memory.shelves) (isVault : shelf.vault.id = writing.item.vaultId)
      (isOld : writing.isNew = false) (present : writing.item.id ∈ shelf.items.map Item.id)
      (shelves : (operation.act memory).shelves = (memory.updateItems writing.item.vaultId
        (updateFirst (fun stored => stored.id == writing.item.id) fun _ => writing.kept)).shelves)
      (given : writing.Given operation memory) : Effect operation memory (some writing)

namespace Effect

theorem addItem (memory : Memory) (vault title : String) (fields : List (String × String)) :
    let operation : Operation := .addItem vault title fields
    Effect operation memory (operation.writing? memory) := by
  intro operation
  let concealed := fields.map fun (title, value) => Field.concealed title value
  let writing : Writing :=
    ⟨⟨(memory.addItem vault title fields).1, (memory.addVault vault).1, title, .apiCredential,
      concealed, []⟩, true, operation.fieldIds memory concealed⟩
  have givesOut : operation.givesOut memory =
      (memory.newVaultIds vault ++ if writing.isNew then [writing.item.id] else []) ++
        newIds concealed (numberFields ((memory.addVault vault).2.issued + 1) concealed).1 :=
    List.append_cons ..
  obtain ⟨kept, given⟩ := writing.given_of_numbered rfl givesOut
  obtain ⟨shelf, there, isVault⟩ := exists_shelf_addVault vault memory
  change Effect operation memory (some writing)
  refine .addition (.inr ⟨vault, rfl⟩) there isVault rfl rfl ?_ given
  rw [kept]
  rfl

theorem createItem (item : NewItem) (permitted : memory.failures.lookup .createItem = none) :
    let operation : Operation := .ask (.createItem item)
    Effect operation memory (operation.writing? memory) := by
  intro operation
  have answered := answer_of_permitted memory (.createItem item) permitted
  have givesOut := newIdsAnswering_of_permitted memory (.createItem item) permitted
  cases found : (memory.recorded [Call.record (.createItem item)]).shelf? item.vaultId with
  | none =>
    rw [perform_createItem_of_missing found] at answered
    rw [writing?_createItem (congrArg Prod.fst answered)]
    exact .idle (congrArg (fun answer => answer.2.shelves) answered)
  | some shelf =>
    obtain ⟨there, isVault⟩ := exists_shelf_of_shelf? found
    have performed := perform_createItem_of_found found
    rw [performed] at answered
    let writing : Writing := ⟨{ newItemAt memory.issued item with fields := item.fields }, true,
      operation.fieldIds memory item.fields⟩
    replace givesOut : operation.givesOut memory =
        ([] ++ if writing.isNew then [writing.item.id] else []) ++
          newIds item.fields (numberFields (memory.issued + 1) item.fields).1 := by
      refine givesOut.trans ?_
      simp only [newIdsPerforming]
      rw [performed]
      rfl
    obtain ⟨kept, given⟩ := writing.given_of_numbered rfl givesOut
    have wrote : operation.writing? memory = some writing :=
      writing?_createItem (congrArg Prod.fst answered)
    rw [wrote]
    refine .addition (.inl rfl) there isVault rfl rfl ?_ given
    rw [kept]
    exact congrArg (fun answer => answer.2.shelves) answered

theorem putItem (item : Item) (permitted : memory.failures.lookup .putItem = none) :
    let operation : Operation := .ask (.putItem item)
    Effect operation memory (operation.writing? memory) := by
  intro operation
  have answered := answer_of_permitted memory (.putItem item) permitted
  have givesOut := newIdsAnswering_of_permitted memory (.putItem item) permitted
  cases found : (memory.recorded [Call.record (.putItem item)]).item? item.vaultId item.id with
  | none =>
    rw [perform_putItem_of_missing found] at answered
    rw [writing?_putItem (congrArg Prod.fst answered)]
    exact .idle (congrArg (fun answer => answer.2.shelves) answered)
  | some stored =>
    obtain ⟨shelf, there, isVault, inShelf, isItem⟩ := of_item? found
    rw [perform_putItem_of_found found] at answered
    let writing : Writing := ⟨item, false, operation.fieldIds memory item.fields⟩
    replace givesOut : operation.givesOut memory =
        ([] ++ if writing.isNew then [writing.item.id] else []) ++
          newIds item.fields (numberFields memory.issued item.fields).1 := givesOut
    obtain ⟨kept, given⟩ := writing.given_of_numbered rfl givesOut
    have wrote : operation.writing? memory = some writing :=
      writing?_putItem (congrArg Prod.fst answered)
    rw [wrote]
    refine .replacement there isVault rfl
      (List.mem_map.mpr ⟨stored, inShelf, isItem⟩) ?_ given
    rw [kept]
    exact congrArg (fun answer => answer.2.shelves) answered

theorem answer (memory : Memory) (call : Call) :
    let operation : Operation := .ask call
    Effect operation memory (operation.writing? memory) := by
  intro operation
  cases injected : memory.failures.lookup call.kind with
  | some detail =>
    have answered := answer_of_failing memory call injected
    have nothing : operation.writing? memory = none := by
      cases call with
      | putItem item => exact writing?_putItem (congrArg Prod.fst answered)
      | createItem item => exact writing?_createItem (congrArg Prod.fst answered)
      | _ => rfl
    rw [nothing]
    exact .idle (congrArg (fun answer => answer.2.shelves) answered)
  | none =>
    have shelves := congrArg (fun answer => answer.2.shelves)
      (answer_of_permitted memory call injected)
    cases call with
    | putItem item => exact putItem item injected
    | createItem item => exact createItem item injected
    | listItems vaultId => rw [perform_listItems] at shelves; exact .idle shelves
    | getItem vaultId itemId => rw [perform_getItem] at shelves; exact .idle shelves
    | _ => exact .idle shelves

/-- An operation writes an item and does nothing else to the shelves, or it adds a vault at most. -/
theorem of_operation (operation : Operation) (memory : Memory) :
    Effect operation memory (operation.writing? memory) := by
  cases operation with
  | addVault title => exact .vault title rfl
  | addItem vault title fields => exact addItem memory vault title fields
  | failOn kind detail => exact .idle rfl
  | ask call => exact answer memory call
  | start reference underWay => exact .idle rfl

end Effect

/-! ## What was given out for writings -/

theorem given_of_writing? {operation : Operation}
    (wrote : operation.writing? memory = some writing) : writing.Given operation memory := by
  have effect := Effect.of_operation operation memory
  rw [wrote] at effect
  cases effect with
  | addition _ _ _ _ _ _ given => exact given
  | replacement _ _ _ _ _ given => exact given

/-- What is given out for writings is given out in the course of operations, in this order. -/
theorem givenIds_sublist (operations : List Operation) (memory : Memory) :
    ((writings operations memory).flatMap Writing.givenIds).Sublist
      (givenOut operations memory) := by
  induction operations generalizing memory with
  | nil => exact .slnil
  | cons operation rest inductionHypothesis =>
    rw [writings, givenOut, List.flatMap_append]
    refine .append ?_ (inductionHypothesis (operation.act memory))
    cases wrote : operation.writing? memory with
    | none => exact List.nil_sublist _
    | some writing =>
      obtain ⟨earlier, givesOut⟩ := (given_of_writing? wrote).givesOut
      rw [givesOut, Option.toList_some, List.flatMap_singleton]
      exact List.sublist_append_right earlier _

theorem exists_of_mem_writings {operations : List Operation}
    (member : writing ∈ writings operations memory) :
    ∃ operation before, Writing.Given writing operation before := by
  induction operations generalizing memory with
  | nil => cases member
  | cons operation rest inductionHypothesis =>
    rcases List.mem_append.mp member with here | later
    · exact ⟨operation, memory, given_of_writing? (Option.mem_toList.mp here)⟩
    · exact inductionHypothesis later

end SecretRefs.Store.Memory
