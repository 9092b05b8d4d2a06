import SecretRefs.Proofs.Upsert.Assurance
import SecretRefs.Proofs.Upsert.Frame

/-!
# Upserts that run at the same time

Upserts of different items take turns, call by call, in the order of any schedule
(`together`). By the assurance of each of them all succeed (`upserts_interleave`). Two
invariants of single writes say what the whole leaves alone: `Kept` compares a store, shelf by
shelf and item by item, with what it was, and `Wrote.copies_le` counts the items with a title.

Since ids come from one counter, the ids of new items and fields depend on the schedule. So what
an upsert leaves is compared with what it leaves by itself up to new ids (`SameItem`).
-/

namespace SecretRefs.Store.Memory

variable {memory before after : Memory} {request : UpsertRequest} {shelf : Shelf}
  {kind : UpsertKind}

/-! ## What is left alone -/

section Frame

variable {Party : Type} {requests : Party → UpsertRequest} {item : Item}

/-- Whether some request is about an item of a store. -/
def Addressed (requests : Party → UpsertRequest) (memory : Memory) (item : Item) : Prop :=
  ∃ party, memory.itemTitled? (requests party).vault (requests party).item = some item

/-- How an item may change: in its fields, if some request is about it. -/
inductive ItemKept (requests : Party → UpsertRequest) (memory : Memory) (item : Item) :
    Item → Prop where
  | same : ItemKept requests memory item item
  | changed (fields : List Field) (addressed : Addressed requests memory item) :
      ItemKept requests memory item { item with fields }

/-- An item may be added to a vault if some request is about it and the store had none. -/
def Missed (requests : Party → UpsertRequest) (memory : Memory) (vault : VaultSummary)
    (item : Item) : Prop :=
  ∃ party, memory.itemTitled? (requests party).vault (requests party).item = none ∧
    Text.sameTitle vault.title (requests party).vault = true ∧
    titled (requests party).item item = true

/-- How a shelf may change: its items stay in place as `ItemKept` says, and others come after
them. -/
inductive ShelfKept (requests : Party → UpsertRequest) (memory : Memory) (shelf : Shelf) :
    Shelf → Prop where
  | grown {changed created : List Item}
      (kept : List.Forall₂ (ItemKept requests memory) shelf.items changed)
      (missed : ∀ item ∈ created, Missed requests memory shelf.vault item) :
      ShelfKept requests memory shelf { shelf with items := changed ++ created }

/-- How a store may change while requests are carried out. -/
def Kept (requests : Party → UpsertRequest) (memory after : Memory) : Prop :=
  List.Forall₂ (ShelfKept requests memory) memory.shelves after.shelves

theorem Kept.refl (requests : Party → UpsertRequest) (memory : Memory) :
    Kept requests memory memory := by
  refine List.forall₂_same.mpr fun shelf _ => ?_
  have unchanged : List.Forall₂ (ItemKept requests memory) shelf.items shelf.items :=
    List.forall₂_same.mpr fun item _ => ItemKept.same
  have grown := ShelfKept.grown unchanged (List.forall_mem_nil (Missed requests memory shelf.vault))
  rwa [List.append_nil] at grown

/-- What stands opposite a part of a list. -/
theorem forall₂_split {α β : Type} {relation : α → β → Prop} {list : List α} {early late : List β}
    {element : β} (related : List.Forall₂ relation list (early ++ element :: late)) :
    ∃ before one after, list = before ++ one :: after ∧ List.Forall₂ relation before early ∧
      relation one element ∧ List.Forall₂ relation after late := by
  induction early generalizing list with
  | nil =>
    obtain ⟨one, after, here, rest, rfl⟩ := List.forall₂_cons_right_iff.mp related
    exact ⟨[], one, after, rfl, .nil, here, rest⟩
  | cons first early inductionHypothesis =>
    obtain ⟨one, others, here, rest, rfl⟩ := List.forall₂_cons_right_iff.mp related
    obtain ⟨before, match', after, rfl, front, matched, back⟩ := inductionHypothesis rest
    exact ⟨one :: before, match', after, rfl, .cons here front, matched, back⟩

/-- A test finds nothing in a list if it finds nothing in what stands opposite. -/
theorem find?_eq_none_of_forall₂ {α β : Type} {relation : α → β → Prop} {test : α → Bool}
    {otherTest : β → Bool} (same : ∀ one other, relation one other → test one = otherTest other)
    {list : List α} {others : List β} (related : List.Forall₂ relation list others)
    (unmatched : ∀ other ∈ others, otherTest other = false) : list.find? test = none := by
  induction related with
  | nil => rfl
  | cons here _ inductionHypothesis =>
    rw [List.find?_cons, same _ _ here, unmatched _ List.mem_cons_self]
    exact inductionHypothesis fun other member => unmatched other (List.mem_cons_of_mem _ member)

/-- A test finds first what stands opposite the first match. -/
theorem find?_of_forall₂ {α β : Type} {relation : α → β → Prop} {test : α → Bool}
    {otherTest : β → Bool} (same : ∀ one other, relation one other → test one = otherTest other)
    {before after : List α} {early : List β} {one : α}
    (related : List.Forall₂ relation before early)
    (unmatched : ∀ other ∈ early, otherTest other = false) (matched : test one = true) :
    (before ++ one :: after).find? test = some one := by
  rw [List.find?_append, find?_eq_none_of_forall₂ same related unmatched, Option.none_or]
  exact List.find?_cons_of_pos matched

theorem titled_of_itemKept (title : String) (one other : Item)
    (kept : ItemKept requests memory one other) : titled title one = titled title other := by
  cases kept with
  | same => rfl
  | changed fields addressed => rfl

theorem shelved_of_shelfKept (title : String) (one other : Shelf)
    (kept : ShelfKept requests memory one other) : shelved title one = shelved title other := by
  cases kept with
  | grown kept missed => rfl

/-- An item that is kept still is when its fields change, if some request is about it. -/
theorem ItemKept.rewrite {current : Item} (kept : ItemKept requests memory item current)
    (addressed : Addressed requests memory item) (fields : List Field) :
    ItemKept requests memory item { current with fields } := by
  cases kept with
  | same => exact .changed fields addressed
  | changed old _ => exact .changed fields addressed

/-- An element of two lists that follow one another stands in the first or in the second. -/
theorem append_eq_append_cons {α : Type} {first second early late : List α} {element : α}
    (same : first ++ second = early ++ element :: late) :
    (∃ between, first = early ++ element :: between ∧ late = between ++ second) ∨
      ∃ between, early = first ++ between ∧ second = between ++ element :: late := by
  rcases List.append_eq_append_iff.mp same with ⟨between, isEarly, isSecond⟩ |
    ⟨between, isFirst, rest⟩
  · exact .inr ⟨between, isEarly, isSecond⟩
  · cases between with
    | nil =>
      rw [List.append_nil] at isFirst
      exact .inr ⟨[], by rw [isFirst, List.append_nil], rest.symm⟩
    | cons one between =>
      obtain ⟨rfl, isLate⟩ := List.cons.inj rest
      exact .inl ⟨between, isFirst, isLate⟩

/-- A shelf is still kept when a request is carried out in it. -/
theorem ShelfKept.storesItem {party : Party} {current : Shelf} {items : List Item}
    {before : Memory} {counter : Nat} (kept : ShelfKept requests memory shelf current)
    (found : memory.shelfTitled? (requests party).vault = some shelf)
    (stores : StoresItem (requests party) current.vault.id before current.items kind items
      counter) : ShelfKept requests memory shelf { current with items } := by
  have inShelf : memory.itemTitled? (requests party).vault (requests party).item =
      shelf.items.find? (titled (requests party).item) :=
    itemTitled?_of_found found (Text.sameTitle_self _) _
  have isShelved : shelved (requests party).vault shelf = true := List.find?_some found
  have sameTitled : ∀ one other, ItemKept requests memory one other →
      titled (requests party).item one = titled (requests party).item other :=
    titled_of_itemKept (requests party).item
  cases kept with
  | @grown changed created keptItems missed =>
    cases stores with
    | @updated early late item fields _ split earlier matched =>
      rcases append_eq_append_cons split with ⟨between, rfl, rfl⟩ | ⟨between, rfl, rfl⟩
      · -- the item was there: it stands opposite the first one with the title
        obtain ⟨before, original, after, isItems, keptEarly, here, keptLate⟩ :=
          forall₂_split keptItems
        have isFirst : shelf.items.find? (titled (requests party).item) = some original := by
          rw [isItems]
          exact find?_of_forall₂ sameTitled keptEarly earlier
            ((sameTitled original item here).trans matched)
        have addressed : Addressed requests memory original := ⟨party, inShelf.trans isFirst⟩
        have keptAgain : List.Forall₂ (ItemKept requests memory) shelf.items
            (early ++ { item with fields } :: between) := by
          rw [isItems]
          exact List.rel_append keptEarly (.cons (here.rewrite addressed fields) keptLate)
        have grown := ShelfKept.grown keptAgain missed
        rwa [List.append_assoc] at grown
      · -- the item came after: it keeps its title
        have missedAgain : ∀ one ∈ between ++ { item with fields } :: late,
            Missed requests memory shelf.vault one := by
          intro one member
          rcases List.mem_append.mp member with inEarly | member
          · exact missed one (List.mem_append_left _ inEarly)
          · rcases List.mem_cons.mp member with rfl | inLate
            · exact missed item List.mem_append_cons_self
            · exact missed one (List.mem_append_right _ (List.mem_cons_of_mem _ inLate))
        have grown := ShelfKept.grown keptItems missedAgain
        rwa [← List.append_assoc] at grown
    | created missing isItemId isFieldId newItem newField =>
      have none := find?_eq_none_of_forall₂ sameTitled keptItems fun one member =>
        missing one (List.mem_append_left _ member)
      rw [List.append_assoc]
      refine .grown keptItems fun one member => ?_
      rcases List.mem_append.mp member with old | new
      · exact missed one old
      · rw [List.mem_singleton.mp new]
        exact ⟨party, inShelf.trans none, isShelved, Text.sameTitle_self _⟩

/-- A store is still kept when a request is carried out. -/
theorem Kept.wrote {party : Party} (kept : Kept requests memory before)
    (wrote : Wrote (requests party) before kind after) : Kept requests memory after := by
  cases wrote.storesSecret with
  | @change early late current _ items counter calls split earlier matched stores =>
    unfold Kept at kept
    rw [split] at kept
    obtain ⟨front, shelf, back, isShelves, keptEarly, here, keptLate⟩ := forall₂_split kept
    have sameShelved : ∀ one other, ShelfKept requests memory one other →
        shelved (requests party).vault one = shelved (requests party).vault other :=
      shelved_of_shelfKept (requests party).vault
    have found : memory.shelfTitled? (requests party).vault = some shelf := by
      rw [shelfTitled?, isShelves]
      exact find?_of_forall₂ sameShelved keptEarly earlier
        ((sameShelved shelf current here).trans matched)
    unfold Kept
    rw [isShelves]
    exact List.rel_append keptEarly (.cons (here.storesItem found stores) keptLate)

theorem Kept.contributes {party : Party} (kept : Kept requests memory before)
    (contributes : Contributes (requests party) before after) : Kept requests memory after := by
  cases contributes with
  | reads calls => exact kept
  | writes wrote sound => exact kept.wrote wrote

/-! ## No item comes to stand twice -/

/-- The number of items with a title in the first vault with a title. -/
def copies (vault title : String) (memory : Memory) : Nat :=
  (memory.shelfTitled? vault).elim 0 fun shelf => shelf.items.countP (titled title)

/-- Only the items of the changed vault are counted anew. -/
theorem copies_changeItems (title vault item : String) (change : List Item → List Item)
    (memory : Memory) :
    (memory.changeItems title change).copies vault item =
      if Text.sameTitle title vault then
        (memory.shelfTitled? vault).elim 0 fun shelf =>
          (change shelf.items).countP (titled item)
      else memory.copies vault item := by
  unfold copies
  rw [shelfTitled?_changeItems]
  split
  · cases memory.shelfTitled? vault with
    | none => rfl
    | some shelf => rfl
  · rfl

/-- Titles are counted without regard to the fields. -/
theorem countP_titled_updateFirst (test : Item → Bool) (fields : List Field) (title : String)
    (items : List Item) :
    (updateFirst test (fun old => { old with fields }) items).countP (titled title) =
      items.countP (titled title) := by
  have byTitle (items : List Item) : items.countP (titled title) =
      (items.map Item.title).countP fun one => Text.sameTitle one title := by
    rw [List.countP_map]
    rfl
  have kept : (updateFirst test (fun old => { old with fields }) items).map Item.title =
      items.map Item.title := map_updateFirst fun _ _ => rfl
  rw [byTitle, byTitle, kept]

/-- A write adds an item with a title only if there was none. -/
theorem Wrote.copies_le (wrote : Wrote request memory kind after) (vault title : String) :
    after.copies vault title ≤ max 1 (memory.copies vault title) := by
  cases wrote with
  | @updated shelf item calls found itemFound =>
    have counted : ((memory.overwritten request item).recorded calls).copies vault title = _ :=
      copies_changeItems request.vault vault title _ memory
    rw [counted]
    simp only [countP_titled_updateFirst]
    split
    · exact Nat.le_max_right 1 _
    · exact Nat.le_max_right 1 _
  | @created shelf calls found missing =>
    have counted : ((memory.extended request shelf.vault.id).recorded calls).copies vault title =
        _ := copies_changeItems request.vault vault title
      (· ++ [createdItem request shelf.vault.id memory.issued]) memory
    rw [counted]
    split
    · rename_i sameVault
      rw [copies, ← shelfTitled?_congr sameVault, found]
      simp only [Option.elim_some, List.countP_append, List.countP_singleton]
      split
      · -- the new item has the title, so no other has
        rename_i sameItem
        have absent : shelf.items.countP (titled title) = 0 := by
          rw [List.countP_eq_zero, ← titled_congr sameItem]
          exact List.find?_eq_none.mp missing
        omega
      · exact Nat.le_max_right 1 _
    · exact Nat.le_max_right 1 _

end Frame

/-! ## Content up to ids -/

/-- Ids that are the same, or were both given out after so many. -/
def SameId (kind : String) (issued : Nat) (one other : String) : Prop :=
  one = other ∨ ∃ number > issued, ∃ otherNumber > issued,
    one = idText kind number ∧ other = idText kind otherNumber

/-- Fields that are the same up to new ids. -/
structure SameField (issued : Nat) (one other : Field) : Prop where
  id : SameId "field" issued one.id other.id
  title : one.title = other.title
  value : one.value = other.value
  kind : one.kind = other.kind
  extra : one.extra = other.extra

/-- Items that are the same up to new ids of their own and of their fields. -/
structure SameItem (issued : Nat) (one other : Item) : Prop where
  id : SameId "item" issued one.id other.id
  vaultId : one.vaultId = other.vaultId
  title : one.title = other.title
  category : one.category = other.category
  fields : List.Forall₂ (SameField issued) one.fields other.fields
  extra : one.extra = other.extra

theorem SameField.refl (issued : Nat) (field : Field) : SameField issued field field :=
  ⟨.inl rfl, rfl, rfl, rfl, rfl⟩

theorem sameFields_refl (issued : Nat) (fields : List Field) :
    List.Forall₂ (SameField issued) fields fields :=
  List.forall₂_same.mpr fun field _ => .refl issued field

/-- New fields with one title and one value are the same up to their ids. -/
theorem sameField_newField {issued number otherNumber : Nat} (title value : String)
    (later : issued < number) (otherLater : issued < otherNumber) :
    SameField issued (newField title value number) (newField title value otherNumber) :=
  ⟨.inr ⟨number, later, otherNumber, otherLater, rfl, rfl⟩, rfl, rfl, rfl, rfl⟩

/-- What a write leaves does not depend on when it is, up to new ids. -/
theorem sameItem_writtenItem (vaultId : String) {issued first second : Nat}
    (firstLater : issued ≤ first) (secondLater : issued ≤ second) (old : Option Item) :
    SameItem issued (writtenItem request vaultId first old)
      (writtenItem request vaultId second old) := by
  cases old with
  | none =>
    refine ⟨.inr ⟨first + 1, by omega, second + 1, by omega, rfl, rfl⟩, rfl, rfl, rfl, ?_, rfl⟩
    exact .cons (sameField_newField _ _ (by omega) (by omega)) .nil
  | some item =>
    refine ⟨.inl rfl, rfl, rfl, rfl, ?_, rfl⟩
    simp only [writtenItem, storeField]
    split
    · exact sameFields_refl issued _
    · exact List.rel_append (sameFields_refl issued item.fields)
        (.cons (sameField_newField _ _ (by omega) (by omega)) .nil)

/-! ## Upserts that run at the same time -/

section Together

variable {Party : Type} {requests : Party → UpsertRequest}

/-- The upserts and the store after the turns of a schedule. -/
def together [DecidableEq Party] (requests : Party → UpsertRequest) (schedule : List Party)
    (memory : Memory) :=
  Dialogue.play answer schedule (fun party => (upsert (requests party)).run) memory

/-- What holds of the store while requests are carried out. -/
def Undisturbed (requests : Party → UpsertRequest) (memory after : Memory) : Prop :=
  Kept requests memory after ∧
    ∀ vault title, after.copies vault title ≤ max 1 (memory.copies vault title)

theorem Undisturbed.contributes {party : Party} (undisturbed : Undisturbed requests memory before)
    (contributes : Contributes (requests party) before after) :
    Undisturbed requests memory after := by
  obtain ⟨kept, bounded⟩ := undisturbed
  refine ⟨kept.contributes contributes, fun vault title => ?_⟩
  have bound := bounded vault title
  cases contributes with
  | reads calls => exact bound
  | writes wrote sound =>
    have step := wrote.copies_le vault title
    omega

/-- Upserts of different items that take turns call by call, in whatever order, do not get into
each other's way. Each is over after four calls, it succeeds with the outcome that it has by
itself, and its item is then as it leaves it by itself, up to new ids. At all times items that no
request is about are what they were, and no item has come to stand twice. -/
theorem upserts_interleave [DecidableEq Party] (reachable : Reachable memory)
    (working : memory.failures = [])
    (present : ∀ party, (memory.shelfTitled? (requests party).vault).isSome)
    (apart : ∀ one other, one ≠ other → (requests one).meets (requests other) = false)
    (schedule : List Party) :
    let after := together requests schedule memory
    (∀ party, 4 ≤ schedule.count party → (after.1 party).result?.isSome) ∧
    (∀ party result, (after.1 party).result? = some result →
      let alone := (upsert (requests party)).on answer memory
      result = alone.1 ∧ (∃ kind, result = .ok ((requests party).outcome kind)) ∧
        ∃ item itemAlone,
          after.2.itemTitled? (requests party).vault (requests party).item = some item ∧
          alone.2.itemTitled? (requests party).vault (requests party).item = some itemAlone ∧
          SameItem memory.issued item itemAlone) ∧
    (∀ vault title, after.2.copies vault title ≤ max 1 (memory.copies vault title)) ∧
    Kept requests memory after.2 := by
  intro after
  have assuredAlone (party : Party) : ∃ vaultId,
      (upsert (requests party)).run.Assured answer (Spares (requests party))
        (Contributes (requests party)) (Delivers (requests party) vaultId memory) memory := by
    obtain ⟨shelf, found⟩ := Option.isSome_iff_exists.mp (present party)
    exact ⟨shelf.vault.id, assured_upsert reachable.sound working found⟩
  choose vaultId assured using assuredAlone
  obtain ⟨⟨kept, bounded⟩, stillAssured⟩ := Dialogue.assured_play (Undisturbed requests memory)
    (fun _ => Spares.refl) (fun _ => Spares.trans) (fun _ => Contributes.idle)
    (fun differ _ _ _ contributes => contributes.spares (apart _ _ differ))
    (fun _ _ _ => Undisturbed.contributes) schedule
    ⟨Kept.refl requests memory, fun vault title => Nat.le_max_right 1 _⟩ assured
  refine ⟨fun party enough => ?_, fun party result ended => ?_, bounded, kept⟩
  · exact Dialogue.isSome_result?_play answer schedule
      (fun party => Upsert.asksAtMost (requests party)) memory enough
  · intro alone
    obtain ⟨isResult, issued, later, held⟩ := (stillAssured party).of_result? Spares.refl ended
    obtain ⟨isAlone, issuedAlone, laterAlone, heldAlone⟩ := (assured party).run Spares.refl
    exact ⟨isResult.trans isAlone.symm, ⟨_, isResult⟩, _, _, held, heldAlone,
      sameItem_writtenItem (vaultId party) later laterAlone _⟩

/-- An update and a creation in one vault that take turns call by call. -/
theorem update_and_creation_interleave :
    let memory := (Memory.empty.addItem "Work" "Mail" [("token", "old")]).2
    let requests : Bool → UpsertRequest := fun creates =>
      if creates then ⟨"work", "Wiki", "key", "first", .login⟩
      else ⟨"Work", "mail", "token", "new", .login⟩
    let after := together requests [false, true, false, true, true, false, true, false] memory
    (after.1 false).result? = some (.ok ((requests false).outcome .updated)) ∧
      (after.1 true).result? = some (.ok ((requests true).outcome .created)) ∧
      after.2.copies "Work" "Wiki" ≤ max 1 (memory.copies "Work" "Wiki") ∧
      Kept requests memory after.2 := by
  intro memory requests after
  have reachable : Reachable memory := .addItem "Work" "Mail" [("token", "old")] .empty
  have present : ∀ party, (memory.shelfTitled? (requests party).vault).isSome := by
    decide +kernel +zetaReduce
  have apart : ∀ one other, one ≠ other → (requests one).meets (requests other) = false := by
    decide +kernel +zetaReduce
  obtain ⟨ended, results, bounded, kept⟩ := upserts_interleave reachable rfl present apart
    [false, true, false, true, true, false, true, false]
  have updated : ((upsert (requests false)).on answer memory).1 =
      .ok ((requests false).outcome .updated) := by
    decide +kernel +zetaReduce
  have created : ((upsert (requests true)).on answer memory).1 =
      .ok ((requests true).outcome .created) := by
    decide +kernel +zetaReduce
  obtain ⟨result, isResult⟩ := Option.isSome_iff_exists.mp (ended false (by decide))
  obtain ⟨other, isOther⟩ := Option.isSome_iff_exists.mp (ended true (by decide))
  refine ⟨?_, ?_, bounded "Work" "Wiki", kept⟩
  · rw [← updated, ← (results false result isResult).1]
    exact isResult
  · rw [← created, ← (results true other isOther).1]
    exact isOther

end Together

end SecretRefs.Store.Memory
