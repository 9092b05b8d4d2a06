import SecretRefs.Settings.Loading
import SecretRefs.Proofs.Settings.KeyPlace
import SecretRefs.Proofs.Settings.Validation
import SecretRefs.Proofs.Text.Bytes

/-!
# What faults point at

A fault about an unknown key points at the place of the key in its table, and the bytes that it
points at are those of the key (`spans_quote_keys`).
-/

namespace SecretRefs.Settings

/-- The text that a span points at. -/
def Span.text? (span : Span) : Option String :=
  Text.excerpt? span.source.content span.offset span.length

/-- The key that stands at its place is quoted by the bytes there. -/
theorem KeyPlace.IsPlace.excerpt? {content key : String} {path : List String} {offset : Nat}
    (isPlace : IsPlace content path key offset) :
    (String.Pos.Raw.mk offset).IsValid content ∧
      Text.excerpt? content offset key.utf8ByteSize = some key := by
  obtain ⟨front, behind, rfl, rfl⟩ := isPlace.exists_append
  refine ⟨String.Pos.Raw.isValid_iff_exists_append.mpr ⟨front, key ++ behind, ?_, rfl⟩,
    Text.excerpt?_append front key behind⟩
  rw [String.append_assoc]

namespace Fault

variable {origin : Origin} {table : List String} {key : String} {sources : List Source}
  {source : Source} {span : Span}

theorem mem_of_sourceOf? (isSource : sourceOf? origin sources = some source) :
    source ∈ sources := by
  unfold sourceOf? at isSource
  split at isSource
  · exact List.mem_of_find?_eq_some isSource
  · split at isSource
    · cases isSource
      exact List.mem_cons_self
    · cases isSource

/-- The span of a key is in one of the sources, at the place of the key. -/
theorem of_keySpan? (isSpan : keySpan? origin table key sources = some span) :
    span.source ∈ sources ∧ KeyPlace.IsPlace span.source.content table key span.offset ∧
      span.length = key.utf8ByteSize := by
  obtain ⟨source, isSource, isSpan⟩ := Option.bind_eq_some_iff.mp isSpan
  obtain ⟨offset, isFound, isSpan⟩ := Option.bind_eq_some_iff.mp isSpan
  cases isSpan
  exact ⟨mem_of_sourceOf? isSource, KeyPlace.find?_eq_some_iff.mp isFound, rfl⟩

/-- A key that is found in the only source there is, a text, is pointed at there. -/
theorem keySpan?_of_find? {offset : Nat}
    (isFound : KeyPlace.find? source.content table key = some offset) :
    keySpan? .inline table key [source] = some ⟨source, offset, key.utf8ByteSize⟩ := by
  simp only [keySpan?, sourceOf?, Option.bind_eq_bind, Option.bind_some, isFound]

/-- A fault that points at something is about a refusal. -/
theorem exists_refusal_of_conclude {directory : String}
    {outcome : Except (List Refusal) Settings} {faults : List Fault} {suggestion : Option String}
    {known : List String} (failed : conclude directory sources outcome = .error faults)
    (member : .unknownKey key suggestion known (some span) ∈ faults) :
    ∃ refusal : Refusal,
      .unknownKey key suggestion known (some span) = ofRefusal directory sources refusal := by
  unfold conclude at failed
  split at failed
  · obtain ⟨setting, detail, isInvalid, -⟩ := (Validation.faults_of_check failed).2 _ member
    cases isInvalid
  · obtain rfl := Except.error.inj failed
    obtain ⟨refusal, -, isFault⟩ := List.mem_map.mp member
    exact ⟨refusal, isFault.symm⟩

/-- The span of an unknown key is that of its place in a source. -/
theorem keySpan?_of_ofRefusal {directory : String} {refusal : Refusal}
    {suggestion : Option String} {known : List String}
    (isFault : .unknownKey key suggestion known (some span) = ofRefusal directory sources refusal) :
    keySpan? refusal.origin refusal.path.dropLast key sources = some span := by
  unfold ofRefusal at isFault
  split at isFault
  · injection isFault with sameKey _ _ sameSpan
    rw [sameKey, sameSpan]
  · cases isFault
  · cases isFault

end Fault

/-- A key is found exactly at the first place where its table assigns it, which is an offset between
characters where the bytes of the key begin. So every fault about an unknown key of a text that
points at something points at such a place in the text, and at the key itself. -/
theorem spans_quote_keys :
    (∀ content path key offset, KeyPlace.find? content path key = some offset ↔
      KeyPlace.IsPlace content path key offset) ∧
    (∀ content path key offset, KeyPlace.IsPlace content path key offset →
      (String.Pos.Raw.mk offset).IsValid content ∧
        Text.excerpt? content offset key.utf8ByteSize = some key) ∧
    ∀ text faults key suggestion known span, ofText text = .error faults →
      .unknownKey key suggestion known (some span) ∈ faults →
      span.source.content = text ∧ (∃ table, KeyPlace.IsPlace text table key span.offset) ∧
        span.text? = some key := by
  refine ⟨fun _ _ _ _ => KeyPlace.find?_eq_some_iff, fun _ _ _ _ => KeyPlace.IsPlace.excerpt?,
    fun text faults key suggestion known span failed member => ?_⟩
  obtain ⟨refusal, isFault⟩ := Fault.exists_refusal_of_conclude failed member
  obtain ⟨isSource, isPlace, isLength⟩ := Fault.of_keySpan? (Fault.keySpan?_of_ofRefusal isFault)
  have isContent : span.source.content = text :=
    congrArg Source.content (List.mem_singleton.mp isSource)
  rw [Span.text?, isLength]
  exact ⟨isContent, ⟨refusal.path.dropLast, isContent ▸ isPlace⟩, isPlace.excerpt?.2⟩

/-- A text with line breaks of two characters, a character of two bytes and a key behind a tab. -/
def sampleTabbed : String := "# clé\r\n[defaults]\r\n\tvaultt = 1\r\n"

/-- The unknown key is pointed at by its offset in bytes. -/
theorem key_behind_tab_quoted :
    ∃ suggestion span,
      ofText sampleTabbed =
        .error [.unknownKey "vaultt" suggestion ["vault", "field", "category"] (some span)] ∧
      span.offset = 21 ∧ span.text? = some "vaultt" := by
  have refused : ofLayers (textLayers sampleTabbed) =
      .error [⟨.unknownKey "vaultt" ["vault", "field", "category"], ["defaults", "vaultt"],
        .inline⟩] := by
    decide +kernel
  have isFound : KeyPlace.find? sampleTabbed ["defaults"] "vaultt" = some 21 := by decide
  have isSpan := @Fault.keySpan?_of_find? _ _ ⟨inlineName, sampleTabbed⟩ _ isFound
  have failed : ofText sampleTabbed =
      .error [.unknownKey "vaultt" (Suggestion.best? "vaultt" ["vault", "field", "category"])
        ["vault", "field", "category"] (some ⟨⟨inlineName, sampleTabbed⟩, 21,
          "vaultt".utf8ByteSize⟩)] := by
    rw [ofText, refused, ← isSpan]
    rfl
  obtain ⟨-, -, isQuoted⟩ := spans_quote_keys.2.2 sampleTabbed _ _ _ _ _ failed List.mem_cons_self
  exact ⟨_, _, failed, rfl, isQuoted⟩

end SecretRefs.Settings
