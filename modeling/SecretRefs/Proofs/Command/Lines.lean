import Mathlib.Data.List.Basic
import SecretRefs.Command.Reports
import SecretRefs.Store.Memory
import SecretRefs.Proofs.Redaction
import SecretRefs.Proofs.Text.Line
import SecretRefs.Proofs.Tree.OnePass
import SecretRefs.Proofs.Tree.Path

/-!
# Lines for references

What is printed of a tree is a line with the number of its references and one for each of them,
with its path and its redacted secret. Neither is quoted. So a line break in a key on the way to a
reference, or in the part of a secret that is shown, makes another line, and there are as many
lines too many as there are such line breaks (`lines_for_references`).
-/

namespace SecretRefs

open SecretRefs.Tree

/-- The number of line breaks in a text. -/
def Text.breaks (text : String) : Nat :=
  text.toList.count '\n'

theorem Text.breaks_append (one other : String) :
    breaks (one ++ other) = breaks one + breaks other := by
  rw [breaks, String.toList_append, List.count_append]
  rfl

theorem Text.breaks_eq_zero_iff {text : String} : breaks text = 0 ↔ '\n' ∉ text.toList :=
  List.count_eq_zero

/-- A number is written in digits. -/
theorem Text.breaks_toString (number : Nat) : breaks (toString number) = 0 := by
  rw [breaks_eq_zero_iff, Nat.toString_eq_repr, Nat.toList_repr]
  intro member
  have isDigit := Nat.isDigit_of_mem_toDigits (by decide) (by decide) member
  exact absurd isDigit (by decide)

/-! ## Line breaks that are shown -/

/-- The line breaks that are shown of a secret. -/
def Redaction.shownBreaks (secret : String) : Nat :=
  if secret.length ≤ 12 then 0
  else (secret.toList.take 6).count '\n' + (secret.toList.rtake 4).count '\n'

theorem Redaction.count_mark (count : Nat) : (mark count).count '\n' = 0 := by
  have inNumber := Text.breaks_toString count
  rw [Text.breaks] at inNumber
  rw [mark, List.count_append, List.count_append, inNumber]
  rfl

theorem Redaction.breaks_redact (secret : String) :
    Text.breaks (redact secret) = shownBreaks secret := by
  unfold shownBreaks
  split
  · rename_i short
    rw [redact_short short]
    rfl
  · rename_i long
    rw [Text.breaks, toList_redact (Nat.lt_of_not_le long), List.count_append, List.count_append,
      count_mark, Nat.add_zero]

theorem Redaction.shownBreaks_eq_zero_iff {secret : String} :
    shownBreaks secret = 0 ↔
      (12 < secret.length → '\n' ∉ secret.toList.take 6 ∧ '\n' ∉ secret.toList.rtake 4) := by
  unfold shownBreaks
  split
  · rename_i short
    exact iff_of_true rfl fun long => absurd short (Nat.not_le_of_lt long)
  · rename_i long
    rw [Nat.add_eq_zero_iff, List.count_eq_zero, List.count_eq_zero,
      forall_prop_of_true (Nat.lt_of_not_le long)]

namespace Tree

/-- The line breaks in the keys of a position. -/
def keyBreaks (position : List Branch) : Nat :=
  ((names position).map Text.breaks).sum

theorem breaks_childPath (parent key : String) :
    Text.breaks (childPath parent key) = Text.breaks parent + Text.breaks key := by
  unfold childPath
  split
  · rename_i isEmpty
    rw [String.isEmpty_iff.mp isEmpty]
    exact (Nat.zero_add _).symm
  · rw [Text.breaks_append, Text.breaks_append]
    rfl

/-- A path has the line breaks of the keys that it is made of. -/
theorem breaks_shownPath (position : List Branch) :
    Text.breaks (shownPath (pathOf position)) = keyBreaks position := by
  have shown (path : String) : Text.breaks (shownPath path) = Text.breaks path := by
    unfold shownPath
    split
    · rename_i isEmpty
      rw [String.isEmpty_iff.mp isEmpty]
      rfl
    · rfl
  rw [shown]
  induction position using List.reverseRecOn with
  | nil => rfl
  | append_singleton position branch inductionHypothesis =>
    rw [pathOf_concat, breaks_childPath, inductionHypothesis, keyBreaks, keyBreaks, names, names,
      List.map_append, List.map_append, List.sum_append]
    rfl

theorem keyBreaks_eq_zero_iff {position : List Branch} :
    keyBreaks position = 0 ↔ ∀ key, .entry key ∈ position → '\n' ∉ key.toList := by
  rw [keyBreaks, names, List.map_map, List.sum_eq_zero_iff_forall_eq_nat, List.forall_mem_map]
  constructor
  · exact fun unbroken key member => Text.breaks_eq_zero_iff.mp (unbroken _ member)
  · intro unbroken branch member
    cases branch with
    | element index => exact Text.breaks_toString index
    | entry key => exact Text.breaks_eq_zero_iff.mpr (unbroken key member)

/-! ## References as nodes -/

/-- The nodes of a tree that are references, in order. -/
def referenceNodes (tree : Json) : List Node :=
  (nodes tree).filter fun node => holdsReference node.part

end Tree

namespace Command

/-! ## Lines that are printed -/

/-- The line for an entry, without the line break behind it. -/
def entryLine (entry : ResolvedPath) : List Char :=
  ("  " ++ entry.path ++ ": " ++ Redaction.redact entry.value).toList

/-- The line for a reference that has this secret. -/
def referenceLine (node : Node) (secret : String) : List Char :=
  entryLine ⟨shownPath (pathOf node.position), secret⟩

/-- The line with the number of references, and one for each of them. -/
def linesOf (tree : Json) (secrets : List String) : List (List Char) :=
  ("Resolved " ++ toString (countReferences tree) ++ " secret reference(s):").toList ::
    List.zipWith referenceLine (referenceNodes tree) secrets

/-- A text has a line for each reference, with its secret. Line breaks in keys and in what is shown
of secrets are all that divides these lines further. -/
structure Prints (tree : Json) (secrets : List String) (text : String) : Prop where
  number : (linesOf tree secrets).length = countReferences tree + 1
  whole : text.toList = Text.ended (linesOf tree secrets)
  divided : ∃ lines, Text.Unbroken lines ∧ text.toList = Text.ended lines ∧
    lines.length = countReferences tree + 1 +
      ((referenceNodes tree).map fun node => keyBreaks node.position).sum +
      (secrets.map Redaction.shownBreaks).sum ∧
    (lines = linesOf tree secrets ↔
      (∀ node ∈ referenceNodes tree, ∀ key, .entry key ∈ node.position → '\n' ∉ key.toList) ∧
      ∀ secret ∈ secrets, 12 < secret.length →
        '\n' ∉ secret.toList.take 6 ∧ '\n' ∉ secret.toList.rtake 4)

theorem count_referenceLine (node : Node) (secret : String) :
    (referenceLine node secret).count '\n' =
      keyBreaks node.position + Redaction.shownBreaks secret := by
  rw [← breaks_shownPath, ← Redaction.breaks_redact]
  change Text.breaks (_ ++ _ ++ _ ++ _) = _
  rw [Text.breaks_append, Text.breaks_append, Text.breaks_append]
  change 0 + _ + 0 + _ = _
  rw [Nat.zero_add, Nat.add_zero]

/-- All line breaks in the lines are in keys or in what is shown of secrets. -/
theorem sum_count_linesOf {tree : Json} {secrets : List String}
    (each : (referenceNodes tree).length = secrets.length) :
    ((linesOf tree secrets).map (List.count '\n')).sum =
      ((referenceNodes tree).map fun node => keyBreaks node.position).sum +
        (secrets.map Redaction.shownBreaks).sum := by
  have first : Text.breaks ("Resolved " ++ toString (countReferences tree) ++
      " secret reference(s):") = 0 := by
    rw [Text.breaks_append, Text.breaks_append, Text.breaks_toString]
    rfl
  rw [Text.breaks] at first
  rw [linesOf, List.map_cons, List.sum_cons, first, Nat.zero_add]
  generalize referenceNodes tree = nodes at each ⊢
  induction nodes generalizing secrets with
  | nil =>
    obtain rfl := List.eq_nil_of_length_eq_zero each.symm
    rfl
  | cons node nodes inductionHypothesis =>
    obtain ⟨secret, others, rfl⟩ := List.exists_cons_of_length_eq_add_one each.symm
    have later := inductionHypothesis (Nat.succ.inj each)
    simp only [List.zipWith_cons_cons, List.map_cons, List.sum_cons, count_referenceLine, later]
    omega

/-- The lines of a list of resolved paths. -/
theorem toList_resolvedText {entries : List ResolvedPath} (nonempty : entries ≠ []) :
    (resolvedText entries).toList =
      Text.ended (("Resolved " ++ toString entries.length ++ " secret reference(s):").toList ::
        entries.map entryLine) := by
  have lines : (String.join (entries.map resolvedLine)).toList =
      Text.ended (entries.map entryLine) := by
    rw [String.toList_join, Text.ended, List.flatMap_map, List.flatMap_map]
    refine List.flatMap_congr fun entry _ => ?_
    rw [resolvedLine, String.toList_append]
    rfl
  rw [resolvedText, if_neg (mt List.isEmpty_iff.mp nonempty), String.toList_append, lines,
    Text.ended_cons, String.toList_append, String.toList_append, String.toList_append,
    String.toList_append]
  simp

/-- Entries with the paths of nodes have the lines of these. -/
theorem zipWith_referenceLine {nodes : List Node} {entries : List ResolvedPath}
    (placed : List.Forall₂ (fun node entry => entry.path = shownPath (pathOf node.position))
      nodes entries) :
    List.zipWith referenceLine nodes (entries.map ResolvedPath.value) =
      entries.map entryLine := by
  induction placed with
  | nil => rfl
  | cons isPath _ inductionHypothesis =>
    rw [List.map_cons, List.map_cons, List.zipWith_cons_cons, inductionHypothesis, referenceLine,
      ← isPath]

/-- A report whose entries have the paths of the references, in order, is printed so. -/
theorem prints_resolvedText {tree : Json} {entries : List ResolvedPath}
    (present : 0 < countReferences tree)
    (placed : List.Forall₂ (fun node entry => entry.path = shownPath (pathOf node.position))
      (referenceNodes tree) entries) :
    Prints tree (entries.map ResolvedPath.value) (resolvedText entries) := by
  have each : (referenceNodes tree).length = entries.length := placed.length_eq
  have counted : countReferences tree = (referenceNodes tree).length :=
    countReferences_eq_nodes tree []
  have areLines := zipWith_referenceLine placed
  have whole : (resolvedText entries).toList =
      Text.ended (linesOf tree (entries.map ResolvedPath.value)) := by
    have nonempty : entries ≠ [] := by
      rintro rfl
      rw [counted, each] at present
      exact absurd present (Nat.lt_irrefl 0)
    rw [toList_resolvedText nonempty, linesOf, areLines, counted, each]
  have number : (linesOf tree (entries.map ResolvedPath.value)).length =
      countReferences tree + 1 := by
    rw [linesOf, areLines, List.length_cons, List.length_map, counted, each]
  have inLines := sum_count_linesOf (each.trans (List.length_map ResolvedPath.value).symm)
  refine ⟨number, whole, ?_⟩
  obtain ⟨lines, unbroken, same⟩ :=
    Text.exists_unbroken (linesOf tree (entries.map ResolvedPath.value))
  refine ⟨lines, unbroken, whole.trans same.symm, ?_, ?_⟩
  · rw [unbroken.length_eq, same, Text.count_ended, number, inLines, Nat.add_assoc, Nat.add_assoc,
      Nat.add_assoc]
  · -- These are the expected lines just if there is no line break in any of those.
    rw [unbroken.eq_iff same, Text.unbroken_iff_sum, inLines, Nat.add_eq_zero_iff,
      List.sum_eq_zero_iff_forall_eq_nat, List.sum_eq_zero_iff_forall_eq_nat,
      List.forall_mem_map, List.forall_mem_map]
    simp only [keyBreaks_eq_zero_iff, Redaction.shownBreaks_eq_zero_iff]

/-! ## Runs -/

theorem keysDistinct_of_readTree {complaint : String → String} {files : Files} {path : String}
    {tree : Json} (isTree : readTree complaint files path = .ok tree) : tree.KeysDistinct := by
  unfold readTree at isTree
  split at isTree
  · cases isTree
  · split at isTree
    · rename_i parsed
      cases isTree
      obtain ⟨document, _, isValue⟩ := Option.bind_eq_some_iff.mp parsed
      exact document.keysDistinct_of_value? isValue
    · cases isTree

theorem fst_on_showResolution {State : Type} {complaint : String → String} (store : String)
    {files : Files} {path : String} {tree : Json}
    (isTree : readTree complaint files path = .ok tree) (backend : Store.Backend State)
    (state : State) :
    ((showResolution complaint store files path).on backend state).1 =
      ((resolve store tree).on backend state).1.bind (describeResolution tree) := by
  rw [showResolution, Session.on_bind, Session.on_mk_pure, isTree, Session.resume_ok,
    Session.on_bind]
  obtain ⟨failure | resolved, after⟩ := (resolve store tree).on backend state
  · rfl
  · rfl

/-- What is printed of a resolution that ends with a tree. -/
theorem prints_of_walked {tree resolved : Json} {turns : List Store.Turn}
    (distinct : tree.KeysDistinct) (present : 0 < countReferences tree)
    (walked : Progress.Walked (.due tree) turns (.ok resolved)) :
    ∃ secrets text, Got (leaves tree) secrets turns ∧
      describeResolution tree resolved = .ok text ∧ Prints tree secrets text := by
  obtain ⟨entries, isReport, listed, _⟩ := reportOf_walked distinct walked
  have placed := ((told_report tree resolved).of_ok isReport).2.imp fun _ _ tells => tells.path
  refine ⟨_, resolvedText entries, listed.got, ?_, prints_resolvedText present placed⟩
  rw [describeResolution, isReport]
  rfl

/-- If a file has references and a store has secrets for all of them, a line with the number of
references is printed and one for each of them in order, in whatever order the calls end. These
are all lines exactly if there is no line break in a key on the way to a reference nor in the
characters that are shown of a secret; else each such line break makes one line more. -/
theorem lines_for_references {complaint : String → String} {files : Files} {path : String}
    {tree : Json} (isTree : readTree complaint files path = .ok tree)
    (present : 0 < countReferences tree) :
    ((referenceNodes tree).map Node.part = (leaves tree).map fun leaf => .string leaf.text) ∧
    (∀ {State : Type} (store : String) (backend : Store.Backend State) (state : State),
      (∀ turn ∈ (resolve store tree).turns backend state, turn.failure? = none) →
        ∃ secrets text, Got (leaves tree) secrets ((resolve store tree).turns backend state) ∧
          ((showResolution complaint store files path).on backend state).1 = .ok text ∧
          Prints tree secrets text) ∧
    ∀ turns outcome, Progress.Steps (.due tree) turns (Progress.ended outcome) →
      (∀ turn ∈ turns, turn.failure? = none) →
        ∃ ordered secrets text, ordered.Perm turns ∧ Got (leaves tree) secrets ordered ∧
          outcome.bind (describeResolution tree) = .ok text ∧ Prints tree secrets text := by
  have distinct := keysDistinct_of_readTree isTree
  refine ⟨leaves_eq_nodes tree [], fun store backend state answered => ?_,
    fun turns outcome steps answered => ?_⟩
  · have walked := Progress.walked_resolve store backend tree state
    obtain ⟨resolved, isResolved⟩ :=
      Progress.exists_ok_of_steps (Progress.steps_of_walked walked) answered
    rw [isResolved] at walked
    obtain ⟨secrets, text, got, isText, prints⟩ := prints_of_walked distinct present walked
    refine ⟨secrets, text, got, ?_, prints⟩
    rw [fst_on_showResolution store isTree, isResolved]
    exact isText
  · obtain ⟨resolved, rfl⟩ := Progress.exists_ok_of_steps steps answered
    obtain ⟨ordered, same, walked⟩ := Progress.Walked.of_steps steps
    obtain ⟨secrets, text, got, isText, prints⟩ := prints_of_walked distinct present walked
    exact ⟨ordered, secrets, text, same, got, isText, prints⟩

/-- Line breaks that stay hidden make no lines. -/
theorem hidden_breaks_unshown :
    let files : Files := ⟨[(["a.json"], .file "\x7b\"tls\":[null,\"op://Work/Cert/key\"],
      \"id\":\"op://Work/Cert/id\"\x7d".toUTF8)], "/"⟩
    let memory := (Store.Memory.empty.addItem "Work" "Cert"
      [("key", "-----BEGIN KEY-----\nabc\n-----END KEY-----"), ("id", "a\nb")]).2
    let complaint : String → String := fun _ => "expected value at line 1 column 1"
    let text := "Resolved 2 secret reference(s):\n" ++
      "  tls.1: -----B...[31 chars]...----\n" ++ "  id: [short value]\n"
    ∃ tree secrets, readTree complaint files "a.json" = .ok tree ∧ countReferences tree = 2 ∧
      ((showResolution complaint "memory" files "a.json").on Store.Memory.answer memory).1 =
        .ok text ∧
      Prints tree secrets text ∧ Text.Unbroken (linesOf tree secrets) ∧
      ∃ turns outcome, Progress.Steps (.due tree) turns (Progress.ended outcome) ∧
        outcome.bind (describeResolution tree) = .ok text := by
  intro files memory complaint text
  have shown :
      ((showResolution complaint "memory" files "a.json").on Store.Memory.answer memory).1 =
        .ok text := by
    decide +kernel
  have counted : (readTree complaint files "a.json").toOption.map countReferences = some 2 := by
    decide +kernel
  have answered : (readTree complaint files "a.json").toOption.map (fun tree =>
      ((resolve "memory" tree).turns Store.Memory.answer memory).all fun turn =>
        turn.failure?.isNone) = some true := by
    decide +kernel
  have broken : text.toList.count '\n' = 3 := by decide +kernel
  clear_value files memory complaint text
  cases isTree : readTree complaint files "a.json" with
  | error failure =>
    rw [isTree] at counted
    cases counted
  | ok tree =>
    rw [isTree] at counted answered
    have isTwo : countReferences tree = 2 := Option.some.inj counted
    have allAnswered : ∀ turn ∈ (resolve "memory" tree).turns Store.Memory.answer memory,
        turn.failure? = none := by
      simpa using Option.some.inj answered
    obtain ⟨_, inTurn, inAnyOrder⟩ := lines_for_references isTree (by rw [isTwo]; decide)
    obtain ⟨secrets, printed, _, isPrinted, prints⟩ :=
      inTurn "memory" Store.Memory.answer memory allAnswered
    obtain rfl : printed = text := Except.ok.inj (isPrinted.symm.trans shown)
    have unbroken : Text.Unbroken (linesOf tree secrets) := by
      have breaks := Text.count_ended (linesOf tree secrets)
      rw [← prints.whole, broken, prints.number, isTwo] at breaks
      rw [Text.unbroken_iff_sum]
      omega
    have steps := Progress.steps_of_walked
      (Progress.walked_resolve "memory" Store.Memory.answer tree memory)
    obtain ⟨_, _, also, _, _, isText, _⟩ := inAnyOrder _ _ steps allAnswered
    have alsoShown := fst_on_showResolution "memory" isTree Store.Memory.answer memory
    rw [isText, shown] at alsoShown
    obtain rfl : printed = also := Except.ok.inj alsoShown
    exact ⟨tree, secrets, rfl, isTwo, shown, prints, unbroken, _, _, steps, isText⟩

/-- A line break at the end of a secret or in a key makes a third line for one reference. -/
theorem shown_breaks_divide :
    let files (text : String) : Files := ⟨[(["a.json"], .file text.toUTF8)], "/"⟩
    let complaint : String → String := fun _ => "expected value at line 1 column 1"
    let shown (text secret : String) :=
      ((showResolution complaint "memory" (files text) "a.json").on Store.Memory.answer
        (Store.Memory.empty.addItem "Work" "Cert" [("key", secret)]).2).1
    ∀ one ∈ [
        ("\x7b\"key\":\"op://Work/Cert/key\"\x7d",
          "-----BEGIN KEY-----\nabc\n-----END KEY-----\n",
          "Resolved 1 secret reference(s):\n  key: -----B...[32 chars]...---\n\n"),
        ("\x7b\"a\\nb\":\"op://Work/Cert/key\"\x7d", "abc",
          "Resolved 1 secret reference(s):\n  a\nb: [short value]\n")],
      (readTree complaint (files one.1) "a.json").toOption.map countReferences = some 1 ∧
        shown one.1 one.2.1 = .ok one.2.2 ∧
        ¬ ∃ lines, lines.length = 1 + 1 ∧ Text.Unbroken lines ∧
          one.2.2.toList = Text.ended lines := by
  intro files complaint shown
  have threeLines : ∀ text : String, text.toList.count '\n' = 3 →
      ¬ ∃ lines, lines.length = 1 + 1 ∧ Text.Unbroken lines ∧ text.toList = Text.ended lines := by
    rintro text isThree ⟨lines, isTwo, unbroken, isText⟩
    rw [unbroken.length_eq, ← isText, isThree] at isTwo
    cases isTwo
  simp only [List.forall_mem_cons]
  refine ⟨⟨?_, ?_, threeLines _ ?_⟩, ⟨?_, ?_, threeLines _ ?_⟩, nofun⟩
  all_goals decide +kernel

end Command

end SecretRefs
