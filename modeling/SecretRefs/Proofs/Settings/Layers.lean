import SecretRefs.Proofs.Settings.Schema
import SecretRefs.Settings.Loading

/-!
# Layers of settings

Tables of settings over one another. Each setting goes its own way through the layers: what the
upper table has for it holds, and where that has nothing, the lower one decides, whatever the
two have for the other settings of the section. A layer `Gives` contents to settings if it is a
table of settings and nothing else, and layers that give contents always load.
-/

namespace SecretRefs.Settings

open Setting (Content Kind sectionNames keysOf)
open Value (coverEntries cover laidOver lookup_coverEntries below? content?)

variable {upper lower : Value.Entries}

/-! ## One table over another -/

/-- A table in the place of a section is one of the two tables there, or one over the other. -/
theorem table_of_lookup_cover (tidy : Tidy upper) {name : String} {origin : Origin}
    {inner : Value.Entries}
    (present : (coverEntries upper lower).lookup name = some (.table origin inner)) :
    upper.lookup name = some (.table origin inner) ∨
    lower.lookup name = some (.table origin inner) ∨
    ∃ above place below, upper.lookup name = some (.table origin above) ∧
      lower.lookup name = some (.table place below) ∧ inner = coverEntries above below := by
  rw [lookup_coverEntries tidy.ordered.nodup] at present
  cases up : upper.lookup name with
  | none =>
    rw [up] at present
    exact .inr (.inl present)
  | some value =>
    cases down : lower.lookup name with
    | none =>
      rw [up, down] at present
      exact .inl present
    | some below =>
      rw [up, down, laidOver] at present
      cases value with
      | scalar | sequence => cases present
      | table above entries =>
        cases below with
        | scalar | sequence =>
          cases present
          exact .inl rfl
        | table place others =>
          cases present
          exact .inr (.inr ⟨entries, place, others, rfl, rfl, rfl⟩)

theorem Tidy.coverEntries (tidyUpper : Tidy upper) (tidyLower : Tidy lower) :
    Tidy (coverEntries upper lower) := by
  refine ⟨tidyLower.ordered.coverEntries upper, fun present => ?_⟩
  obtain up | down | ⟨above, place, below, -, down, rfl⟩ := table_of_lookup_cover tidyUpper present
  · exact tidyUpper.sections up
  · exact tidyLower.sections down
  · exact (tidyLower.sections down).coverEntries above

theorem Sectioned.coverEntries (tidy : Tidy upper) (sectionedUpper : Sectioned upper)
    (sectionedLower : Sectioned lower) : Sectioned (coverEntries upper lower) := by
  intro name known value present
  rw [lookup_coverEntries tidy.ordered.nodup] at present
  cases up : upper.lookup name with
  | none =>
    rw [up] at present
    exact sectionedLower name known value present
  | some above =>
    obtain ⟨origin, entries, rfl⟩ := sectionedUpper name known above up
    cases down : lower.lookup name with
    | none =>
      rw [up, down] at present
      exact ⟨origin, entries, (Option.some.inj present).symm⟩
    | some below =>
      obtain ⟨place, others, rfl⟩ := sectionedLower name known below down
      rw [up, down] at present
      exact ⟨origin, _, (Option.some.inj present).symm⟩

/-- A key of a section has its value in the upper table, or else the one in the lower table,
if that has nothing but settings. -/
theorem below?_coverEntries (tidy : Tidy upper) (sectioned : Sectioned upper)
    (declared : Declared lower) {name : String} (known : name ∈ sectionNames) (key : String) :
    below? name key (coverEntries upper lower) =
      (below? name key upper).or (below? name key lower) := by
  have fits := fun {value} => @declared.settings name key value known
  unfold below? at fits ⊢
  rw [lookup_coverEntries tidy.ordered.nodup]
  cases up : upper.lookup name with
  | none => rfl
  | some above =>
    obtain ⟨origin, entries, rfl⟩ := sectioned name known above up
    cases down : lower.lookup name with
    | none => exact (Option.or_none).symm
    | some below =>
      obtain ⟨place, others, rfl⟩ := declared.sectioned name known below down
      rw [down] at fits
      simp only [laidOver, cover]
      rw [lookup_coverEntries (tidy.sections up).nodup]
      cases entries.lookup key with
      | none => rfl
      | some value =>
        cases under : others.lookup key with
        | none => rfl
        | some covered =>
          -- The lower value is one of a setting, so it is no table that would be merged.
          obtain ⟨setting, -, -, isSome⟩ := fits under
          obtain ⟨origin, scalar, rfl⟩ := Kind.scalar_of_ofValue? isSome
          exact congrArg some (Value.cover_eq_of_scalar value origin scalar)

/-- What is refused about a table over one that has nothing but settings is what is refused
about it alone. -/
theorem refused_coverEntries_iff (tidy : Tidy upper) (sectioned : Sectioned upper)
    (declared : Declared lower) {refusal : Refusal} :
    Refused (coverEntries upper lower) refusal ↔ Refused upper refusal := by
  have strayLookup {name : String} (unknown : name ∉ sectionNames) :
      (coverEntries upper lower).lookup name = upper.lookup name := by
    have absent : lower.lookup name = none := by
      by_contra present
      obtain ⟨value, present⟩ := Option.ne_none_iff_exists'.mp present
      exact unknown (declared.sections present)
    rw [lookup_coverEntries tidy.ordered.nodup, absent]
    cases upper.lookup name with
    | none => rfl
    | some value => rfl
  constructor
  · rintro (⟨present, unknown⟩ | ⟨known, present, objection⟩)
    · exact .stray (strayLookup unknown ▸ present) unknown
    · rw [below?_coverEntries tidy sectioned declared known, Option.or_eq_some_iff] at present
      obtain present | ⟨-, present⟩ := present
      · exact .inside known present objection
      · exact absurd (.inside known present objection) declared.not_refused
  · rintro (⟨present, unknown⟩ | ⟨known, present, objection⟩)
    · exact .stray (strayLookup unknown ▸ present) unknown
    · refine .inside known ?_ objection
      rw [below?_coverEntries tidy sectioned declared known, present, Option.some_or]

theorem declared_coverEntries_iff (tidy : Tidy upper) (sectioned : Sectioned upper)
    (declared : Declared lower) : Declared (coverEntries upper lower) ↔ Declared upper := by
  constructor
  · intro accepted
    refine declared_of_not_refused sectioned fun refusal refused => ?_
    exact accepted.not_refused ((refused_coverEntries_iff tidy sectioned declared).mpr refused)
  · intro accepted
    refine declared_of_not_refused (sectioned.coverEntries tidy declared.sectioned)
      fun refusal refused => ?_
    exact accepted.not_refused ((refused_coverEntries_iff tidy sectioned declared).mp refused)

theorem content?_coverEntries (tidy : Tidy upper) (declaredUpper : Declared upper)
    (declaredLower : Declared lower) (setting : Setting) :
    content? (coverEntries upper lower) setting =
      (content? upper setting).or (content? lower setting) := by
  unfold content?
  rw [below?_coverEntries tidy declaredUpper.sectioned declaredLower setting.sectionName_mem]
  cases present : below? setting.sectionName setting.key upper with
  | none => rfl
  | some value =>
    -- The upper value fits its setting, so it is what both sides come to.
    obtain ⟨other, belongs, isNamed, fits⟩ := declaredUpper.settings setting.sectionName_mem present
    obtain rfl := Setting.eq_of_named belongs isNamed
    obtain ⟨content, holds⟩ := Option.isSome_iff_exists.mp fits
    rw [Option.some_or, Option.bind_some, holds, Option.some_or]

/-! ## Layers -/

/-- A layer that is a table of settings and nothing else, and sets some of them. -/
def Gives (value : Value) (given : Setting → Option Content) : Prop :=
  ∃ origin found, value = .table origin found ∧ Tidy found ∧ Declared found ∧
    content? found = given

theorem Gives.cover {above below : Value} {first second : Setting → Option Content}
    (upper : Gives above first) (lower : Gives below second) :
    Gives (cover above below) fun setting => (first setting).or (second setting) := by
  obtain ⟨origin, entries, rfl, tidy, declared, rfl⟩ := upper
  obtain ⟨place, others, rfl, tidyLower, declaredLower, rfl⟩ := lower
  exact ⟨origin, coverEntries entries others, rfl, tidy.coverEntries tidyLower,
    (declared_coverEntries_iff tidy declared.sectioned declaredLower).mpr declared,
    funext (content?_coverEntries tidy declared declaredLower)⟩

theorem gives_nothing (origin : Origin) : Gives (.table origin []) fun _ => none := by
  refine ⟨origin, [], rfl, ⟨List.Pairwise.nil, ?_⟩, declared_of_isDeclared rfl, rfl⟩
  exact fun present => nomatch present

/-- The built-in settings set everything. -/
theorem gives_builtIn : Gives (toValue {}) fun setting => some (setting.of {}) := by
  refine ⟨.builtIn, _, rfl, ⟨by unfold Value.Ordered; decide, fun present => ?_⟩,
    declared_of_isDeclared (by decide), ?_⟩
  · have member := Value.mem_of_lookup present
    simp only [List.mem_cons, Prod.mk.injEq, Value.table.injEq, List.not_mem_nil,
      or_false] at member
    unfold Value.Ordered
    obtain ⟨-, -, rfl⟩ | ⟨-, -, rfl⟩ | ⟨-, -, rfl⟩ := member <;> decide
  · funext setting
    cases setting <;> rfl

/-- Reading a layer of settings succeeds, and what it does not set stays as built in. -/
theorem Gives.settings_eq {value : Value} {given : Setting → Option Content}
    (layer : Gives value given) : ∃ settings, Extraction.settings value = .ok settings ∧
      ∀ setting : Setting, setting.of settings = (given setting).getD (setting.of {}) := by
  obtain ⟨origin, found, rfl, tidy, declared, rfl⟩ := layer
  exact declared.settings_eq tidy

/-- Layers, the lowest one first, that are all tables of settings, and what they set together. -/
inductive AllGive : List Layer → (Setting → Option Content) → Prop
  | nil : AllGive [] fun _ => none
  | cons {value : Value} {given : Setting → Option Content} {layers : List Layer}
    {later : Setting → Option Content} (lowest : Gives value given) (rest : AllGive layers later) :
    AllGive (.ok value :: layers) fun setting => (later setting).or (given setting)

namespace AllGive

variable {layers : List Layer} {given : Setting → Option Content}

theorem single {value : Value} (layer : Gives value given) : AllGive [.ok value] given :=
  cons layer nil

/-- What later layers set holds over what earlier ones set. -/
theorem append {others : List Layer} {later : Setting → Option Content}
    (lower : AllGive layers given) (upper : AllGive others later) :
    AllGive (layers ++ others) fun setting => (later setting).or (given setting) := by
  induction lower with
  | nil => simpa only [List.nil_append, Option.or_none] using upper
  | cons lowest rest inductionHypothesis =>
    simpa only [List.cons_append, Option.or_assoc] using cons lowest inductionHypothesis

theorem refusals (layersGive : AllGive layers given) :
    layers.filterMap Layer.refusal? = [] := by
  induction layersGive with
  | nil => rfl
  | cons lowest rest inductionHypothesis => exact inductionHypothesis

/-- The layers laid over a table of settings, one after the other. -/
theorem foldl (layersGive : AllGive layers given) {start : Value}
    {base : Setting → Option Content} (lowest : Gives start base) :
    Gives ((layers.filterMap Layer.value?).foldl (fun lower upper => upper.cover lower) start)
      fun setting => (given setting).or (base setting) := by
  induction layersGive generalizing start base with
  | nil => exact lowest
  | cons layer rest inductionHypothesis =>
    simp only [Option.or_assoc]
    exact inductionHypothesis (layer.cover lowest)

/-- Layers of settings load, and each setting has what the last layer that sets it gives. -/
theorem ofLayers_eq (layersGive : AllGive layers given) :
    ∃ settings, ofLayers layers = .ok settings ∧
      ∀ setting : Setting, setting.of settings = (given setting).getD (setting.of {}) := by
  have together := layersGive.foldl (gives_nothing .builtIn)
  obtain ⟨settings, read, holds⟩ := together.settings_eq
  refine ⟨settings, ?_, fun setting => ?_⟩
  · rw [ofLayers, layersGive.refusals]
    simp only [stack, read]
  · rw [holds, Option.or_none]

end AllGive

end SecretRefs.Settings
