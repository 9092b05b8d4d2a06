import SecretRefs.Command.Reports
import SecretRefs.Connect.Wire
import SecretRefs.Store.Memory
import SecretRefs.Proofs.Tree.Redacted

/-!
# What commands show of secrets

A command that reads secrets shows them redacted and does nothing else with them: on stores
whose secrets look alike under redaction it prints the same or fails in the same way. A command
that writes a secret prints the same whatever the secret is. `secrets_shown_redacted` says so of
all commands that handle secrets, and of the diagnostic texts of the data that hold some.
-/

namespace SecretRefs

open SecretRefs.Store SecretRefs.Tree

namespace Command

variable {State Other : Type} {related : State → Other → Prop} {one : Backend State}
  {other : Backend Other} {state : State} {otherState : Other}

/-- A list of resolved paths is printed with redacted secrets. -/
theorem resolvedText_eq (report : List ResolvedPath) :
    resolvedText report =
      let shown := report.map ResolvedPath.redacted
      if shown.isEmpty then "No op:// references found.\n"
      else "Resolved " ++ toString shown.length ++ " secret reference(s):\n" ++
        String.join (shown.map fun entry => "  " ++ entry.path ++ ": " ++ entry.value ++ "\n") := by
  dsimp only
  rw [resolvedText, List.isEmpty_map, List.length_map, List.map_map]
  rfl

/-- Trees that look alike are described alike. -/
theorem describeResolution_redacted (given : Json) {resolved otherResolved : Json}
    (same : redacted resolved = redacted otherResolved) :
    describeResolution given resolved = describeResolution given otherResolved := by
  have sameReport := report_redacted given same
  unfold describeResolution
  rcases alike_cases sameReport with ⟨failure, isFailure, alsoFailure⟩ |
    ⟨report, otherReport, isReport, alsoReport, sameShown⟩
  · rw [isFailure, alsoFailure]
  · rw [isReport, alsoReport]
    refine congrArg Except.ok ?_
    rw [resolvedText_eq, resolvedText_eq, sameShown]

/-- What a file's tree is resolved to is shown alike on stores whose secrets look alike. -/
theorem lookAlike_showResolution (alike : Store.LookAlike related Redaction.redact one other)
    (complaint : String → String) (store otherStore : String) (files : Files) (path : String)
    (start : related state otherState) :
    Session.LookAlike related id ((showResolution complaint store files path).on one state)
      ((showResolution complaint otherStore files path).on other otherState) := by
  have read : Session.LookAlike related id
      (Session.on (ExceptT.mk (pure (readTree complaint files path))) one state)
      (Session.on (ExceptT.mk (pure (readTree complaint files path))) other otherState) :=
    ⟨rfl, start⟩
  unfold showResolution
  refine read.bind ?_
  rintro given _ after otherAfter rfl afterRelated
  refine (lookAlike_resolve store otherStore alike given afterRelated).bind ?_
  intro resolved otherResolved last otherLast same lastRelated
  exact ⟨congrArg (Except.map id) (describeResolution_redacted given same), lastRelated⟩

/-- A secret is shown alike on stores whose secrets look alike. -/
theorem lookAlike_showSecret (alike : Store.LookAlike related Redaction.redact one other)
    (vault item field : String) (start : related state otherState) :
    Session.LookAlike related id ((showSecret vault item field).on one state)
      ((showSecret vault item field).on other otherState) := by
  unfold showSecret
  cases Reference.ofParts? vault item field with
  | none => exact ⟨rfl, start⟩
  | some reference =>
    have asked : Session.LookAlike related Redaction.redact
        (Session.on (Session.call (.resolve reference)) one state)
        (Session.on (Session.call (.resolve reference)) other otherState) :=
      alike reference state otherState start
    refine asked.bind ?_
    intro secret otherSecret after otherAfter same afterRelated
    refine ⟨?_, afterRelated⟩
    rw [Session.on_pure, Session.on_pure, same]

end Command

/-! ## Writing a secret to a store in memory -/

section Writing

variable (request : UpsertRequest) (value : String) (memory : Memory)

/-- Whether an item is replaced is a matter of its ids only. -/
theorem Store.Memory.fst_answer_putItem {item other : Item} (sameId : item.id = other.id)
    (sameVault : item.vaultId = other.vaultId) :
    (answer (.putItem item) memory).1 = (answer (.putItem other) memory).1 := by
  unfold answer enter
  simp only [Call.kind, Call.record, sameId, sameVault]
  cases memory.failures.lookup .putItem with
  | some detail => rfl
  | none =>
    simp only [perform, sameId, sameVault, shelf?]
    split
    · rfl
    · rfl

/-- Whether an item is created is a matter of its vault only. -/
theorem Store.Memory.fst_answer_createItem {α : Type} {item other : NewItem}
    (sameVault : item.vaultId = other.vaultId) (result : α) :
    (answer (.createItem item) memory).1.map (fun _ => result) =
      (answer (.createItem other) memory).1.map fun _ => result := by
  unfold answer enter
  simp only [Call.kind]
  cases memory.failures.lookup .createItem with
  | some detail => rfl
  | none =>
    simp only [perform, sameVault, shelf?]
    split
    · rfl
    · rfl

theorem Upsert.fst_update_value (vaultId itemId : String) :
    ((Upsert.update { request with value } vaultId itemId).on Memory.answer memory).1 =
      ((Upsert.update request vaultId itemId).on Memory.answer memory).1 := by
  unfold Upsert.update
  refine Session.fst_on_bind_congr fun item itemRead => ?_
  refine Session.fst_on_bind_congr fun _ logged => ?_
  refine Session.fst_on_bind_of_fst ?_ fun _ _ _ => rfl
  rw [Session.on_callDuring, Session.on_callDuring]
  exact congrArg (Except.mapError _) (Memory.fst_answer_putItem logged rfl rfl)

theorem Upsert.fst_create_value (vaultId : String) :
    ((Upsert.create { request with value } vaultId).on Memory.answer memory).1 =
      ((Upsert.create request vaultId).on Memory.answer memory).1 := by
  have created (request : UpsertRequest) :
      ((Upsert.create request vaultId).on Memory.answer memory).1 =
        ((Memory.answer (.createItem (Upsert.newItem request vaultId)) memory).1.map
          fun _ => .created).mapError (.write .createItem) := by
    unfold Upsert.create
    rw [Session.on_bind, Session.on_callDuring]
    obtain ⟨failure | made, after⟩ :=
      Memory.answer (.createItem (Upsert.newItem request vaultId)) memory
    · rfl
    · rfl
  have sameVault : (Upsert.newItem { request with value } vaultId).vaultId =
      (Upsert.newItem request vaultId).vaultId := rfl
  rw [created, created, Memory.fst_answer_createItem memory sameVault]

/-- What an upsert comes to does not depend on the value. -/
theorem fst_upsert_value :
    ((upsert { request with value }).on Memory.answer memory).1 =
      ((upsert request).on Memory.answer memory).1 := by
  unfold upsert
  refine Session.fst_on_bind_congr fun vaults vaultsRead => ?_
  refine Session.fst_on_bind_congr fun vault vaultFound => ?_
  refine Session.fst_on_bind_congr fun items itemsRead => ?_
  dsimp only
  split
  · exact Session.fst_on_bind_of_fst
      (Upsert.fst_update_value request value itemsRead vault.id _) fun _ _ _ => rfl
  · exact Session.fst_on_bind_of_fst
      (Upsert.fst_create_value request value itemsRead vault.id) fun _ _ _ => rfl

/-- What is printed of an upsert does not depend on the value. -/
theorem Command.fst_storeSecret_value :
    ((Command.storeSecret { request with value }).on Memory.answer memory).1 =
      ((Command.storeSecret request).on Memory.answer memory).1 :=
  Session.fst_on_bind_of_fst (fst_upsert_value request value memory) fun _ _ _ => rfl

end Writing

/-- Secrets are shown redacted. On two stores whose secrets look alike under redaction, a file's
tree is shown alike, in whatever order calls end, and so is a single secret. On a store in memory
a write is shown alike for all values. Diagnostic texts show redacted secrets or none. -/
theorem Command.secrets_shown_redacted :
    (∀ {State Other : Type} (related : State → Other → Prop) (one : Backend State)
      (other : Backend Other), Store.LookAlike related Redaction.redact one other →
      ∀ state otherState, related state otherState →
        (∀ complaint store otherStore files path,
          ((showResolution complaint store files path).on one state).1 =
            ((showResolution complaint otherStore files path).on other otherState).1) ∧
        ∀ vault item field,
          ((showSecret vault item field).on one state).1 =
            ((showSecret vault item field).on other otherState).1) ∧
    (∀ given turns otherTurns outcome,
      Progress.Steps (.due given) turns (Progress.ended outcome) →
      otherTurns.map Turn.redacted = turns.map Turn.redacted →
      ∃ otherOutcome, Progress.Steps (.due given) otherTurns (Progress.ended otherOutcome) ∧
        otherOutcome.bind (describeResolution given) = outcome.bind (describeResolution given)) ∧
    (∀ (memory : Memory) (request : UpsertRequest) (value : String),
      ((storeSecret { request with value }).on Memory.answer memory).1 =
        ((storeSecret request).on Memory.answer memory).1) ∧
    (∀ path secret otherSecret, Redaction.redact secret = Redaction.redact otherSecret →
      ResolvedPath.inspect ⟨path, secret⟩ = ResolvedPath.inspect ⟨path, otherSecret⟩) ∧
    (∀ (request : UpsertRequest) (value : String),
      UpsertRequest.inspect { request with value } = request.inspect) ∧
    (∀ (field : Field) (value : String), Field.inspect { field with value } = field.inspect) ∧
    ∀ (field : Connect.WireField) (value : Option String),
      Connect.WireField.inspect { field with value } = field.inspect := by
  refine ⟨?_, ?_, ?_, ?_, fun _ _ => rfl, fun _ _ => rfl, fun _ _ => rfl⟩
  · intro State Other related one other alike state otherState start
    constructor
    · intro complaint store otherStore files path
      simpa using
        (lookAlike_showResolution alike complaint store otherStore files path start).results
    · intro vault item field
      simpa using (lookAlike_showSecret alike vault item field start).results
  · intro given turns otherTurns outcome steps same
    obtain ⟨otherOutcome, otherSteps, sameOutcome⟩ := Progress.ended_redacted steps same
    refine ⟨otherOutcome, otherSteps, ?_⟩
    rcases alike_cases sameOutcome with ⟨failure, rfl, rfl⟩ |
      ⟨resolved, otherResolved, rfl, rfl, sameTree⟩
    · rfl
    · exact (describeResolution_redacted given sameTree).symm
  · exact fun memory request value => fst_storeSecret_value request value memory
  · intro path secret otherSecret same
    unfold ResolvedPath.inspect
    rw [same]

/-- A store that has one secret for every reference and nothing else. -/
def Store.Backend.saying (secret : String) : Backend Unit
  | .resolve _ => pure (.ok secret)
  | _ => pure (.error (.store "no such call" none))

/-- Two secrets that differ in the middle are shown alike, by themselves, in a tree, and in a
tree whose call has just ended. -/
theorem Command.middles_shown_redacted :
    let one := Backend.saying "sk-proj-0123456789"
    let other := Backend.saying "sk-proj-abcdef6789"
    let files : Files := ⟨[(["a.json"], .file "\"op://Work/Mail/token\"".toUTF8)], "/"⟩
    let complaint : String → String := fun _ => "expected value at line 1 column 1"
    let text := "Resolved 1 secret reference(s):\n  (root): sk-pro...[8 chars]...6789\n"
    ((showSecret "Work" "Mail" "token").on one ()).1 =
        .ok "Work/Mail/token: sk-pro...[8 chars]...6789\n" ∧
      ((showSecret "Work" "Mail" "token").on other ()).1 =
        .ok "Work/Mail/token: sk-pro...[8 chars]...6789\n" ∧
      ((showResolution complaint "one" files "a.json").on one ()).1 = .ok text ∧
      ((showResolution complaint "other" files "a.json").on other ()).1 = .ok text ∧
      ∃ outcome, Progress.Steps (.due (.string "op://Work/Mail/token"))
          [⟨.resolve ⟨"Work", "Mail", "token"⟩, .ok "sk-proj-abcdef6789"⟩]
          (Progress.ended outcome) ∧
        outcome.bind (describeResolution (.string "op://Work/Mail/token")) = .ok text := by
  intro one other files complaint text
  have sameSecret : Redaction.redact "sk-proj-0123456789" =
      Redaction.redact "sk-proj-abcdef6789" := by
    decide +kernel
  have alike : Store.LookAlike (fun _ _ => True) Redaction.redact one other :=
    fun _ _ _ _ => ⟨congrArg Except.ok sameSecret, trivial⟩
  have shown : ((showSecret "Work" "Mail" "token").on one ()).1 =
      .ok "Work/Mail/token: sk-pro...[8 chars]...6789\n" := by
    decide +kernel
  have shownTree : ((showResolution complaint "one" files "a.json").on one ()).1 = .ok text := by
    decide +kernel
  obtain ⟨inTurn, inAnyOrder, _⟩ := secrets_shown_redacted
  obtain ⟨trees, secrets⟩ := inTurn _ one other alike () () trivial
  refine ⟨shown, (secrets "Work" "Mail" "token").symm.trans shown, shownTree,
    (trees complaint "one" "other" files "a.json").symm.trans shownTree, ?_⟩
  have isReference : view (.string "op://Work/Mail/token") =
      .reference ⟨"Work", "Mail", "token"⟩ := by
    have parsed : Reference.parse? "op://Work/Mail/token" = some ⟨"Work", "Mail", "token"⟩ := by
      decide +kernel
    rw [view, viewText, parsed]
  have steps : Progress.Steps (.due (.string "op://Work/Mail/token"))
      [⟨.resolve ⟨"Work", "Mail", "token"⟩, .ok "sk-proj-0123456789"⟩]
      (Progress.ended (.ok (.string "sk-proj-0123456789"))) :=
    .step (.ask isReference) (.single (.answer _ _))
  obtain ⟨outcome, otherSteps, same⟩ := inAnyOrder _ _
    [⟨.resolve ⟨"Work", "Mail", "token"⟩, .ok "sk-proj-abcdef6789"⟩] _ steps (by
      simp [Turn.redacted, Except.map, sameSecret])
  refine ⟨outcome, otherSteps, same.trans ?_⟩
  decide +kernel

end SecretRefs
