import SecretRefs.Proofs.Connect.Mail
import SecretRefs.Proofs.Upsert.Effect
import SecretRefs.Proofs.Upsert.OnServer

/-!
# Reading back what was written

A secret is written by title and read by title or id. `read_after_write` says for a store in
memory and for a server that a secret which was written is read back, unless a field with
another title has the name as its id and comes first (`Field.shadow?`).
-/

namespace SecretRefs.Store.Memory

variable {memory after : Memory} {request : UpsertRequest} {kind : UpsertKind}

/-- The fields of an item, or none if there is no item. -/
def fieldsTitled (vault item : String) (memory : Memory) : List Field :=
  (memory.itemTitled? vault item).elim [] Item.fields

/-- The item of a request holds the fields it held, with the value stored in them. -/
theorem Wrote.stored (wrote : Wrote request memory kind after) :
    ∃ item new, after.itemTitled? request.vault request.item = some item ∧
      Field.titled request.field new = true ∧ new.value = request.value ∧
      item.fields =
        if (memory.fieldsTitled request.vault request.item).any (Field.titled request.field) then
          updateFirst (Field.titled request.field) (fun field => { field with
            value := request.value }) (memory.fieldsTitled request.vault request.item)
        else memory.fieldsTitled request.vault request.item ++ [new] := by
  unfold fieldsTitled
  cases wrote with
  | @updated shelf item calls found itemFound =>
    have written : ((memory.overwritten request item).recorded calls).itemTitled? request.vault
        request.item = _ := itemTitled?_overwritten found itemFound _ _
    have before := itemTitled?_of_found found (Text.sameTitle_self _) request.item
    rw [Text.sameTitle_self, Text.sameTitle_self, Bool.true_and, if_pos rfl] at written
    refine ⟨_, newField request.field request.value (memory.issued + 1), written,
      Text.sameTitle_self _, rfl, ?_⟩
    rw [before, itemFound]
    exact apply_ite Prod.fst _ _ _
  | @created shelf calls found missing =>
    have written : ((memory.extended request shelf.vault.id).recorded calls).itemTitled?
        request.vault request.item = _ := itemTitled?_extended found missing _ _
    have before := itemTitled?_of_found found (Text.sameTitle_self _) request.item
    rw [Text.sameTitle_self, Text.sameTitle_self, Bool.true_and, if_pos rfl] at written
    refine ⟨_, newField request.field request.value (memory.issued + 2), written,
      Text.sameTitle_self _, rfl, ?_⟩
    rw [before, missing]
    rfl

/-- A secret is looked up in the item with the title. -/
theorem lookup_of_found {reference : Reference} {item : Item} {field : Field}
    (found : memory.itemTitled? reference.vault reference.item = some item)
    (fieldFound : (item.fields.find? fun field =>
      Field.titled reference.field field || field.id == reference.field) = some field) :
    memory.lookup reference =
      if field.value.isEmpty then .error (unresolved reference "field has no value")
      else .ok field.value := by
  obtain ⟨shelf, shelfFound, inShelf⟩ := Option.bind_eq_some_iff.mp found
  unfold Field.titled at fieldFound
  simp only [lookup, shelfFound, inShelf, fieldFound]

/-- On a store in memory, what was written is read back unless another field comes first that
has the name as its id. -/
theorem answer_resolve_iff (wrote : Wrote request memory kind after)
    (working : memory.failures = []) {reference : Reference}
    (built : Reference.ofParts? request.vault request.item request.field = some reference)
    (filled : request.value ≠ "") :
    (answer (.resolve reference) after).1 = .ok request.value ↔
      ∀ field, Field.shadow? (fun field => field.id == request.field) request.field
        (memory.fieldsTitled request.vault request.item) = some field →
          field.value = request.value := by
  cases Reference.eq_of_ofParts? built
  obtain ⟨item, new, found, newTitled, newValue, stored⟩ := wrote.stored
  have read := Field.value_find?_stored (fun field => field.id == request.field) newTitled newValue
    (memory.fieldsTitled request.vault request.item)
  rw [← stored] at read
  obtain ⟨field, fieldFound, isValue⟩ := Option.map_eq_some_iff.mp read
  have permitted : after.failures.lookup .resolve = none := by
    rw [wrote.failures_eq, working]
    rfl
  let reference : Reference := ⟨request.vault, request.item, request.field⟩
  have looked : ((after.recorded [Call.record (.resolve reference)]).perform
      (.resolve reference)).1 = _ := lookup_of_found found fieldFound
  rw [answer_of_permitted after (.resolve reference) permitted, looked]
  exact Field.read_eq_ok_iff isValue filled

end SecretRefs.Store.Memory

namespace SecretRefs

open Store Connect

/-- A value that was written is read back, from a store in memory and through a client of a
server that keeps items, just if no shadow in the item as it was has another value. -/
theorem read_after_write {request : UpsertRequest} (vaultNamed : request.vault ≠ "")
    (itemNamed : request.item ≠ "") (fieldNamed : request.field ≠ "")
    (filled : request.value ≠ "") :
    ∃ reference,
      Reference.ofParts? request.vault request.item request.field = some reference ∧
      (∀ (memory after : Memory) (outcome : UpsertOutcome), Memory.Reachable memory →
        memory.failures = [] →
        (upsert request).on Memory.answer memory = (.ok outcome, after) →
          ((Memory.answer (.resolve reference) after).1 = .ok request.value ↔
            ∀ field, Field.shadow? (fun field => field.id == request.field) request.field
              (memory.fieldsTitled request.vault request.item) = some field →
                field.value = request.value)) ∧
      ∀ (State : Type) (client : Client) (server : Server State) (state after : State)
        (outcome : UpsertOutcome), server.Keeps client → server.ServesListed client state →
        Dialogue.outcome server (ExceptT.mk ((upsert request).run.interpret client.perform))
          state = (.ok outcome, after) →
          ((Dialogue.outcome server (client.resolve reference) after).1 = .ok request.value ↔
            ∀ field, Field.shadow? (fun field => Text.sameTitle field.id request.field)
              request.field (server.fieldsTitled client request.vault request.item state) =
                some field → field.value = request.value) := by
  have built := Reference.ofParts?_of_ne vaultNamed itemNamed fieldNamed
  refine ⟨_, built, ?_, ?_⟩
  · intro memory after outcome reachable working run
    rw [Memory.on_upsert reachable.sound] at run
    obtain ⟨kind, _, wrote, _⟩ := Memory.upserted_ok run
    exact Memory.answer_resolve_iff wrote working built filled
  · intro State client server state after outcome keeps listing run
    rw [Client.outcome_interpret] at run
    exact Server.resolve_iff keeps listing run built filled

/-- What a client has written to the server with one item, and has then read there. -/
def Connect.Mail.writtenAndRead (request : UpsertRequest) (reference : Reference) :
    Except Failure UpsertOutcome × Except Failure String :=
  let run := Dialogue.outcome server
    (ExceptT.mk ((upsert request).run.interpret client.perform)) start
  (run.1, (Dialogue.outcome server (client.resolve reference) run.2).1)

theorem Connect.Mail.writtenAndRead_eq {request : UpsertRequest} {reference : Reference}
    {outcome : UpsertOutcome} {secret : String}
    (written : (writtenAndRead request reference).1 = .ok outcome)
    (readBack : ∀ after, Dialogue.outcome server
        (ExceptT.mk ((upsert request).run.interpret client.perform)) start =
          (.ok outcome, after) →
      (Dialogue.outcome server (client.resolve reference) after).1 = .ok secret) :
    writtenAndRead request reference = (.ok outcome, .ok secret) := by
  unfold writtenAndRead at written ⊢
  generalize Dialogue.outcome server
    (ExceptT.mk ((upsert request).run.interpret client.perform)) start = run
    at written readBack ⊢
  obtain ⟨result, after⟩ := run
  cases written
  exact Prod.ext rfl (readBack after rfl)

/-- A value that was written is read back from a store in memory and through a client, there from
an item that was changed and from one that was created. -/
theorem mail_read_after_write :
    let request : UpsertRequest := ⟨"work", "mail", "TOKEN", "new", .login⟩
    let creation : UpsertRequest := ⟨"Work", "Safe", "pin", "1234", .password⟩
    let memory := (Memory.empty.addItem "Work" "Mail" [("token", "old")]).2
    let written := ((upsert request).on Memory.answer memory).2
    (Memory.answer (.resolve ⟨"work", "mail", "TOKEN"⟩) written).1 = .ok "new" ∧
      Mail.writtenAndRead request ⟨"work", "mail", "TOKEN"⟩ =
        (.ok (request.outcome .updated), .ok "new") ∧
      Mail.writtenAndRead creation ⟨"Work", "Safe", "pin"⟩ =
        (.ok (creation.outcome .created), .ok "1234") := by
  intro request creation memory written
  obtain ⟨reference, built, inMemory, onServer⟩ :=
    @read_after_write request (by decide) (by decide) (by decide) (by decide)
  cases Reference.eq_of_ofParts? built
  refine ⟨?_, ?_, ?_⟩
  · have updated : ((upsert request).on Memory.answer memory).1 =
        .ok (request.outcome .updated) := by
      decide +kernel +zetaReduce
    have unshadowed : Field.shadow? (fun field => field.id == request.field) request.field
        (memory.fieldsTitled request.vault request.item) = none := by
      decide +kernel +zetaReduce
    refine (inMemory memory written _ (.addItem "Work" "Mail" [("token", "old")] .empty) rfl
      (Prod.ext updated rfl)).mpr ?_
    rw [unshadowed]
    exact nofun
  · have updated : (Mail.writtenAndRead request ⟨"work", "mail", "TOKEN"⟩).1 =
        .ok (request.outcome .updated) := by
      decide +kernel +zetaReduce
    have unshadowed : Field.shadow? (fun field => Text.sameTitle field.id request.field)
        request.field (Mail.server.fieldsTitled Mail.client request.vault request.item
          Mail.start) = none := by
      decide +kernel +zetaReduce
    refine Mail.writtenAndRead_eq updated fun after run => ?_
    refine (onServer _ Mail.client Mail.server _ after _ Mail.keeps Mail.servesListed run).mpr ?_
    rw [unshadowed]
    exact nofun
  · have created : (Mail.writtenAndRead creation ⟨"Work", "Safe", "pin"⟩).1 =
        .ok (creation.outcome .created) := by
      decide +kernel +zetaReduce
    obtain ⟨_, alsoBuilt, _, again⟩ :=
      @read_after_write creation (by decide) (by decide) (by decide) (by decide)
    cases Reference.eq_of_ofParts? alsoBuilt
    have noFields : (Mail.server.fieldsTitled Mail.client creation.vault creation.item
        Mail.start).isEmpty = true := by
      decide +kernel +zetaReduce
    refine Mail.writtenAndRead_eq created fun after run => ?_
    refine (again _ Mail.client Mail.server _ after _ Mail.keeps Mail.servesListed run).mpr ?_
    rw [List.isEmpty_iff.mp noFields]
    exact nofun

/-- A value that was written under the id of another field is not read back. -/
theorem shadow_read_after_write :
    let request : UpsertRequest := ⟨"Work", "Mail", "field-3", "new", .login⟩
    let memory := (Memory.empty.addItem "Work" "Mail" [("token", "old")]).2
    Memory.Reachable memory ∧ memory.failures = [] ∧ ∃ after,
      (upsert request).on Memory.answer memory = (.ok (request.outcome .updated), after) ∧
        (Memory.answer (.resolve ⟨"Work", "Mail", "field-3"⟩) after).1 ≠ .ok "new" := by
  intro request memory
  have updated : ((upsert request).on Memory.answer memory).1 =
      .ok (request.outcome .updated) := by
    decide +kernel +zetaReduce
  refine ⟨.addItem "Work" "Mail" [("token", "old")] .empty, rfl, _, Prod.ext updated rfl, ?_⟩
  have resolved : (Memory.answer (.resolve ⟨"Work", "Mail", "field-3"⟩)
      ((upsert request).on Memory.answer memory).2).1 = .ok "old" := by
    decide +kernel +zetaReduce
  rw [resolved]
  decide

end SecretRefs
