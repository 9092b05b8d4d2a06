import SecretRefs.Proofs.Tree.Report

/-!
# Resolution is one pass

A resolution puts secrets in the places of the reference leaves and looks at none of them again.
So the reference leaves of the result are the secrets that are references themselves, in the
order of the leaves that they replace (`leaves_of_walked`), and nothing else is one.

A tree without reference leaves is `Settled`: resolutions ask nothing and give it back. Hence the
result of a resolution is settled unless a store gave a reference as a secret.
-/

namespace SecretRefs.Tree

/-- Leaves have got these secrets in these turns, one for each leaf in order. -/
structure Got (leaves : List Leaf) (secrets : List String) (turns : List Store.Turn) : Prop where
  each : secrets.length = leaves.length
  turns_eq : turns = List.zipWith Leaf.turn leaves secrets

namespace Got

variable {leaves others : List Leaf} {secrets more : List String} {turns rest : List Store.Turn}

theorem nil : Got [] [] [] :=
  ⟨rfl, rfl⟩

theorem append (first : Got leaves secrets turns) (second : Got others more rest) :
    Got (leaves ++ others) (secrets ++ more) (turns ++ rest) := by
  obtain ⟨each, rfl⟩ := first
  obtain ⟨eachMore, rfl⟩ := second
  exact ⟨by simp [each, eachMore], (List.zipWith_append each.symm).symm⟩

end Got

/-- A report lists the secrets that the leaves have got. -/
theorem Listed.got {leaves : List Leaf} {paths : List String} {turns : List Store.Turn}
    {entries : List ResolvedPath} (listed : Listed leaves paths turns entries) :
    Got leaves (entries.map ResolvedPath.value) turns := by
  induction listed with
  | nil => exact .nil
  | cons leaf path secret _ inductionHypothesis =>
    have first : Got [leaf] [secret] [leaf.turn secret] := ⟨rfl, rfl⟩
    exact first.append inductionHypothesis

/-! ## The leaves of a resolved tree -/

theorem isSome_ofText? (text : String) :
    (Leaf.ofText? text).isSome = Reference.isReference text := by
  unfold Reference.isReference
  cases parsed : Reference.parse? text with
  | none =>
    rw [Leaf.ofText?_of_parse?_none parsed]
    rfl
  | some reference =>
    rw [Leaf.ofText?_of_parse? parsed]
    rfl

/-- The leaves of a container that is filled anew are those of its new parts. -/
theorem leaves_fill {tree : Json} {shape : Shape} {parts values : List Json}
    (isContainer : view tree = .container shape parts) (complete : values.length = parts.length) :
    leaves (shape.fill values) = values.flatMap leaves := by
  rcases container_of_view isContainer with ⟨rfl, rfl⟩ | ⟨entries, rfl, rfl, rfl⟩
  · exact leaves_container rfl
  · have kept : ((entries.map Prod.fst).zip values).map Prod.snd = values :=
      List.map_snd_zip (by simp [complete])
    rw [Shape.fill, leaves_container rfl, kept]

section Walked

variable {tree resolved : Json} {parts values : List Json} {turns : List Store.Turn}

/-- The leaves of the results of parts are the secrets of the parts that are references, if this
is so for each part. -/
theorem leaves_of_walkedParts
    (each : ∀ part ∈ parts, ∀ turns value, Progress.Walked (.due part) turns (.ok value) →
      ∃ secrets, Got (leaves part) secrets turns ∧ leaves value = secrets.filterMap Leaf.ofText?)
    (walked : Progress.WalkedParts (parts.map .due) turns (.ok values)) :
    ∃ secrets, Got (parts.flatMap leaves) secrets turns ∧
      values.flatMap leaves = secrets.filterMap Leaf.ofText? := by
  induction parts generalizing turns values with
  | nil =>
    cases walked
    exact ⟨[], .nil, rfl⟩
  | cons part parts inductionHypothesis =>
    cases walked with
    | @cons _ _ first rest value others here later =>
      obtain ⟨secrets, got, isFirst⟩ := each part List.mem_cons_self _ _ here
      obtain ⟨more, gotMore, areOthers⟩ :=
        inductionHypothesis (fun one member => each one (List.mem_cons_of_mem part member)) later
      refine ⟨secrets ++ more, got.append gotMore, ?_⟩
      rw [List.flatMap_cons, List.filterMap_append, isFirst, areOthers]

/-- The reference leaves of a resolved tree are the secrets that are references, in order. -/
theorem leaves_of_walked (walked : Progress.Walked (.due tree) turns (.ok resolved)) :
    ∃ secrets, Got (leaves tree) secrets turns ∧
      leaves resolved = secrets.filterMap Leaf.ofText? := by
  induction tree using viewInduction generalizing turns resolved with
  | reference tree reference isReference =>
    obtain ⟨answer, rfl, isResolved⟩ := walked.of_reference isReference
    obtain ⟨leaf, rfl, rfl⟩ := leaf_of_view isReference
    cases answer with
    | error cause => cases isResolved
    | ok secret =>
      cases isResolved
      rw [leaves_leaf]
      exact ⟨[secret], ⟨rfl, rfl⟩, rfl⟩
  | plain tree isPlain =>
    obtain ⟨rfl, isResolved⟩ := walked.of_plain isPlain
    cases isResolved
    rw [leaves_plain isPlain]
    exact ⟨[], .nil, rfl⟩
  | container tree shape parts isContainer inductionHypothesis =>
    obtain ⟨rest, walkedParts, isResolved⟩ := walked.of_container isContainer
    cases rest with
    | error failure => cases isResolved
    | ok values =>
      cases isResolved
      have complete := length_of_walkedParts walkedParts
      rw [List.length_map] at complete
      rw [leaves_container isContainer, leaves_fill isContainer complete]
      exact leaves_of_walkedParts
        (fun part member turns value => inductionHypothesis part member) walkedParts

/-- Each result of parts is that of one of them. -/
theorem exists_walked_of_mem {value : Json}
    (walked : Progress.WalkedParts (parts.map .due) turns (.ok values)) (member : value ∈ values) :
    ∃ part ∈ parts, ∃ turns, Progress.Walked (.due part) turns (.ok value) := by
  induction parts generalizing turns values with
  | nil =>
    cases walked
    cases member
  | cons part parts inductionHypothesis =>
    cases walked with
    | cons here later =>
      rcases List.mem_cons.mp member with rfl | isOther
      · exact ⟨part, List.mem_cons_self, _, here⟩
      · obtain ⟨one, inParts, found⟩ := inductionHypothesis later isOther
        exact ⟨one, List.mem_cons_of_mem part inParts, found⟩

/-- A resolved tree repeats no key in a mapping if the given one does not. -/
theorem keysDistinct_of_walked (distinct : tree.KeysDistinct)
    (walked : Progress.Walked (.due tree) turns (.ok resolved)) : resolved.KeysDistinct := by
  induction tree using viewInduction generalizing turns resolved with
  | reference tree reference isReference =>
    obtain ⟨answer, rfl, isResolved⟩ := walked.of_reference isReference
    cases answer with
    | error cause => cases isResolved
    | ok secret =>
      cases isResolved
      exact .string secret
  | plain tree isPlain =>
    obtain ⟨rfl, isResolved⟩ := walked.of_plain isPlain
    cases isResolved
    exact distinct
  | container tree shape parts isContainer inductionHypothesis =>
    obtain ⟨rest, walkedParts, isResolved⟩ := walked.of_container isContainer
    cases rest with
    | error failure => cases isResolved
    | ok values =>
      cases isResolved
      have complete := length_of_walkedParts walkedParts
      rw [List.length_map] at complete
      have eachValue (distinctParts : ∀ part ∈ parts, part.KeysDistinct) :
          ∀ value ∈ values, value.KeysDistinct := by
        intro value member
        obtain ⟨part, inParts, _, walkedPart⟩ := exists_walked_of_mem walkedParts member
        exact inductionHypothesis part inParts (distinctParts part inParts) walkedPart
      rcases container_of_view isContainer with ⟨rfl, rfl⟩ | ⟨entries, rfl, rfl, rfl⟩
      · cases distinct with
        | array distinctParts => exact .array (eachValue distinctParts)
      · cases distinct with
        | object keys distinctValues =>
          have keysKept : ((entries.map Prod.fst).zip values).map Prod.fst =
              entries.map Prod.fst :=
            List.map_fst_zip (by simp [complete])
          have distinctParts : ∀ value ∈ entries.map Prod.snd, value.KeysDistinct :=
            List.forall_mem_map.mpr distinctValues
          refine .object ?_ fun entry member => ?_
          · rw [keysKept]
            exact keys
          · exact eachValue distinctParts entry.2 (List.of_mem_zip member).2

end Walked

/-! ## Trees without references -/

/-- A tree that resolutions leave as it is: they ask nothing, and there is nothing to report. -/
structure Settled (tree : Json) : Prop where
  asks_nothing : ∀ store, resolve store tree = pure tree
  /-- Nor does a resolution whose calls may end in any order. -/
  stays : ∀ turns outcome, Progress.Steps (.due tree) turns (Progress.ended outcome) →
    turns = [] ∧ outcome = .ok tree

theorem resolveElements_eq_pure {store : String} {trees : List Json}
    (each : ∀ tree ∈ trees, resolve store tree = pure tree) :
    resolveElements store trees = pure trees := by
  induction trees with
  | nil => rfl
  | cons tree trees inductionHypothesis =>
    have others := inductionHypothesis fun one member => each one (List.mem_cons_of_mem tree member)
    rw [resolveElements, each tree List.mem_cons_self, others]
    rfl

theorem resolveEntries_eq_pure {store : String} {entries : Json.Entries}
    (each : ∀ tree ∈ entries.map Prod.snd, resolve store tree = pure tree) :
    resolveEntries store entries = pure entries := by
  induction entries with
  | nil => rfl
  | cons entry entries inductionHypothesis =>
    obtain ⟨key, value⟩ := entry
    have others := inductionHypothesis fun one member =>
      each one (List.mem_cons_of_mem value member)
    rw [resolveEntries, each value List.mem_cons_self, others]
    rfl

/-- A resolution asks nothing about a tree without reference leaves and gives it back. -/
theorem resolve_eq_pure (store : String) {tree : Json} (none : leaves tree = []) :
    resolve store tree = pure tree := by
  induction tree using viewInduction with
  | reference tree reference isReference =>
    obtain ⟨leaf, rfl, rfl⟩ := leaf_of_view isReference
    rw [leaves_leaf] at none
    cases none
  | plain tree isPlain => exact Progress.resolve_plain store isPlain
  | container tree shape parts isContainer inductionHypothesis =>
    rw [leaves_container isContainer, List.flatMap_eq_nil_iff] at none
    have each : ∀ part ∈ parts, resolve store part = pure part :=
      fun part member => inductionHypothesis part member (none part member)
    rcases container_of_view isContainer with ⟨rfl, rfl⟩ | ⟨entries, rfl, rfl, rfl⟩
    · rw [resolve, resolveElements_eq_pure each]
      rfl
    · rw [resolve, resolveEntries_eq_pure each]
      rfl

/-- A run over a tree without reference leaves makes no call and ends with the tree. -/
theorem stays_of_no_leaves {tree : Json} (none : leaves tree = []) {turns : List Store.Turn}
    {outcome : Except Failure Json}
    (steps : Progress.Steps (.due tree) turns (Progress.ended outcome)) :
    turns = [] ∧ outcome = .ok tree := by
  cases outcome with
  | error failure =>
    cases Progress.Blames.of_steps steps with
    | due member =>
      rw [none] at member
      cases member
  | ok resolved =>
    obtain ⟨ordered, same, walked⟩ := Progress.Walked.of_steps steps
    obtain ⟨secrets, got, _⟩ := leaves_of_walked walked
    have noTurns : ordered = [] := by
      rw [got.turns_eq, none, List.zipWith_nil_left]
    subst noTurns
    -- Without a call any answers are followed, and with fixed answers there is one result.
    have kept := Progress.walked_resolve "" (.fixed fun _ => .error default) tree []
    rw [resolve_eq_pure "" none, Session.turns_pure, Session.on_pure] at kept
    have followed : Progress.Follow (fun _ => .error default) [] := by simp [Progress.Follow]
    exact ⟨List.nil_perm.mp same, walked.deterministic followed kept followed⟩

theorem settled_of_no_leaves {tree : Json} (none : leaves tree = []) : Settled tree :=
  ⟨fun store => resolve_eq_pure store none, fun _ _ steps => stays_of_no_leaves none steps⟩

/-- There is nothing to report on a tree without reference leaves. -/
theorem report_of_no_leaves {tree : Json} (distinct : tree.KeysDistinct)
    (none : leaves tree = []) : report tree tree = .ok [] := by
  have walked := Progress.walked_resolve "" (.fixed fun _ => .error default) tree []
  rw [resolve_eq_pure "" none, Session.turns_pure, Session.on_pure] at walked
  obtain ⟨entries, isReport, _, _, counted⟩ := reportOf_walked distinct walked
  rw [isReport, List.eq_nil_of_length_eq_zero counted]

/-! ## One pass -/

/-- What the secrets that the leaves of a tree have got make of its resolution: as many
references as they are references, and a settled tree if none of them is one. -/
structure PassedOnce (tree : Json) (secrets : List String) (resolved : Json) : Prop where
  counted : countReferences resolved = secrets.countP Reference.isReference
  settled : (∀ secret ∈ secrets, Reference.parse? secret = none) → Settled resolved
  unreported : (∀ secret ∈ secrets, Reference.parse? secret = none) → tree.KeysDistinct →
    report resolved resolved = .ok []

theorem passedOnce_of_walked {tree resolved : Json} {turns : List Store.Turn}
    (walked : Progress.Walked (.due tree) turns (.ok resolved)) :
    ∃ secrets, Got (leaves tree) secrets turns ∧ PassedOnce tree secrets resolved := by
  obtain ⟨secrets, got, areLeaves⟩ := leaves_of_walked walked
  have noLeaves (plain : ∀ secret ∈ secrets, Reference.parse? secret = none) :
      leaves resolved = [] := by
    rw [areLeaves, List.filterMap_eq_nil_iff]
    exact fun secret member => Leaf.ofText?_of_parse?_none (plain secret member)
  refine ⟨secrets, got, ?_, fun plain => settled_of_no_leaves (noLeaves plain),
    fun plain distinct =>
      report_of_no_leaves (keysDistinct_of_walked distinct walked) (noLeaves plain)⟩
  rw [countReferences_eq, areLeaves, List.length_filterMap_eq_countP]
  simp only [isSome_ofText?]

/-- A resolution does not look at the secrets that it puts in. On any store the references in the
result are as many as the secrets that are references themselves, one secret for each leaf. If no
secret is one, further resolutions ask nothing and give the result back, there is nothing to report
on it, and to resolve twice is to resolve once. The same holds of resolutions whose calls end in
any order. -/
theorem resolution_is_one_pass (store : String) (tree : Json) :
    (∀ {State : Type} (backend : Store.Backend State) (state : State) (resolved : Json),
      ((resolve store tree).on backend state).1 = .ok resolved →
        ∃ secrets, Got (leaves tree) secrets ((resolve store tree).turns backend state) ∧
          PassedOnce tree secrets resolved ∧
          ((∀ secret ∈ secrets, Reference.parse? secret = none) →
            (resolve store tree >>= resolve store).on backend state =
              (resolve store tree).on backend state)) ∧
    (∀ turns resolved, Progress.Steps (.due tree) turns (.done resolved) →
      ∃ ordered secrets, ordered.Perm turns ∧ Got (leaves tree) secrets ordered ∧
        PassedOnce tree secrets resolved) := by
  constructor
  · intro State backend state resolved isResolved
    have walked := Progress.walked_resolve store backend tree state
    rw [isResolved] at walked
    obtain ⟨secrets, got, passed⟩ := passedOnce_of_walked walked
    refine ⟨secrets, got, passed, fun plain => ?_⟩
    rw [Session.on_bind]
    generalize (resolve store tree).on backend state = run at isResolved ⊢
    obtain ⟨outcome, after⟩ := run
    cases isResolved
    rw [Session.resume_ok, (passed.settled plain).asks_nothing store, Session.on_pure]
  · intro turns resolved steps
    obtain ⟨ordered, same, walked⟩ := Progress.Walked.of_steps steps
    obtain ⟨secrets, got, passed⟩ := passedOnce_of_walked walked
    exact ⟨ordered, secrets, same, got, passed⟩

/-- A secret that is a reference is left in the result; a second resolution follows it, and then
nothing is left to resolve. -/
theorem forwarded_in_two_passes :
    let tree : Json := .object [("list", .array [.null, .string "op://Work/Mail/old"])]
    let fields := [("old", "op://Work/Mail/token"), ("token", "t-1")]
    let memory := (Store.Memory.empty.addItem "Work" "Mail" fields).2
    ∃ once middle twice after,
      (resolve "memory" tree).on Store.Memory.answer memory = (.ok once, middle) ∧
      countReferences once = 1 ∧
      (resolve "memory" once).on Store.Memory.answer middle = (.ok twice, after) ∧
      texts twice = ["t-1"] ∧ Settled twice := by
  intro tree fields memory
  have foundOnce : ((resolve "memory" tree).on Store.Memory.answer memory).1.toOption.map
      countReferences = some 1 := by
    decide +kernel +zetaReduce
  have foundTwice : ((resolve "memory" tree >>= resolve "memory").on Store.Memory.answer
      memory).1.toOption.map (fun twice => (texts twice, countReferences twice)) =
        some (["t-1"], 0) := by
    decide +kernel +zetaReduce
  clear_value tree memory
  rw [Session.on_bind] at foundTwice
  generalize isOnce : (resolve "memory" tree).on Store.Memory.answer memory = first
    at foundOnce foundTwice
  obtain ⟨failure | once, middle⟩ := first
  · cases foundOnce
  rw [Session.resume_ok] at foundTwice
  generalize isTwice : (resolve "memory" once).on Store.Memory.answer middle = second
    at foundTwice
  obtain ⟨failure | twice, after⟩ := second
  · cases foundTwice
  obtain ⟨sameTexts, none⟩ := Prod.mk.inj (Option.some.inj foundTwice)
  refine ⟨once, middle, twice, after, rfl, Option.some.inj foundOnce, isTwice, sameTexts, ?_⟩
  obtain ⟨secrets, _, passed, _⟩ := (resolution_is_one_pass "memory" once).1 Store.Memory.answer
    middle twice (congrArg Prod.fst isTwice)
  refine passed.settled fun secret member => ?_
  have counted := passed.counted
  rw [none] at counted
  have plain := List.countP_eq_zero.mp counted.symm secret member
  simpa [Reference.isReference] using plain

end SecretRefs.Tree
