import SecretRefs.Proofs.Equality
import SecretRefs.Proofs.Settings.Layers
import SecretRefs.Proofs.Settings.Validation

/-!
# Settings in TOML documents

A document that is well formed sets what it says or is refused, and nothing of it is passed
over: it loads exactly if all its keys are those of settings and all their values fit, and if it
does not load, the first fault is about one of the keys that stand in the way.
-/

namespace SecretRefs

open Setting (Content Kind sectionNames keysOf)

namespace Setting.Kind

/-- What a value of a document sets, if it is one of this kind. -/
def ofToml? (kind : Kind) : Toml.Value → Option Content
  | .text value => kind.ofText? value
  | .integer number => kind.ofInteger? number
  | _ => none

/-- Words for the values of this kind. -/
def expected : Kind → String
  | .seconds => "u64"
  | _ => "a string"

theorem ofValue?_ofToml (kind : Kind) (origin : Settings.Origin) (value : Toml.Value) :
    kind.ofValue? (Settings.Value.ofToml origin value) = kind.ofToml? value := by
  cases value <;> rfl

end Setting.Kind

namespace Settings

namespace Document

/-- What a document has under a key of a section. -/
def below? (name key : String) (document : Toml.Entries) : Option Toml.Value :=
  match document.lookup name with
  | some (.table inner) => inner.lookup key
  | _ => none

/-- What a document sets a setting to. -/
def content? (document : Toml.Entries) (setting : Setting) : Option Content :=
  (below? setting.sectionName setting.key document).bind setting.kind.ofToml?

/-- Documents in which sections are tables, if they are there. -/
def Sectioned (document : Toml.Entries) : Prop :=
  ∀ name ∈ sectionNames, ∀ value, document.lookup name = some value →
    ∃ inner, value = .table inner

/-- Documents that have no key besides the sections, and in each section none besides its
settings, which all have a value of their kind. -/
structure Declared (document : Toml.Entries) : Prop where
  sectioned : Sectioned document
  sections : ∀ {name value}, document.lookup name = some value → name ∈ sectionNames
  settings : ∀ {name key value}, name ∈ sectionNames → below? name key document = some value →
    ∃ setting : Setting, setting.sectionName = name ∧ setting.key = key ∧
      (setting.kind.ofToml? value).isSome

/-- What is wrong with a key of a document with a text, as its reader is told. -/
inductive Offence (text : String) (document : Toml.Entries) : Fault → Prop
  | straySection {name : String} {value : Toml.Value}
    (present : document.lookup name = some value) (unknown : name ∉ sectionNames) :
    Offence text document (.unknownKey name (Suggestion.best? name sectionNames) sectionNames
      (Fault.keySpan? .inline [] name [⟨inlineName, text⟩]))
  | strayKey {name key : String} {value : Toml.Value} (known : name ∈ sectionNames)
    (present : below? name key document = some value) (unknown : key ∉ keysOf name) :
    Offence text document (.unknownKey key (Suggestion.best? key (keysOf name)) (keysOf name)
      (Fault.keySpan? .inline [name] key [⟨inlineName, text⟩]))
  | wrongType (setting : Setting) {value : Toml.Value}
    (present : below? setting.sectionName setting.key document = some value)
    (unfit : setting.kind.ofToml? value = none)
    (notNumber : setting = .timeout → ∀ number, value ≠ .integer number) :
    Offence text document (.wrongType (setting.fullName)
      (Value.ofToml .inline value).inWords setting.kind.expected)
  | negative {number : Int} (present : below? "store" "timeout_secs" document =
      some (.integer number)) (negative : number < 0) :
    Offence text document (.other ("invalid value signed int `" ++ toString number ++
      "`, expected u64 for key \"default.store.timeout_secs\" in TOML source string"))

end Document

open Value (ofToml ofTomlEntries lookup_ofTomlEntries)

/-! ## A document as a layer -/

variable {document : Toml.Entries} {origin : Origin}

@[simp] theorem Value.origin_ofToml (origin : Origin) (value : Toml.Value) :
    (ofToml origin value).origin = origin := by
  cases value <;> rfl

theorem tidy_ofTomlEntries (origin : Origin) (document : Toml.Entries) :
    Tidy (ofTomlEntries origin document) := by
  refine ⟨Value.ordered_ofTomlEntries origin document, fun {name place inner} present => ?_⟩
  rw [lookup_ofTomlEntries, Option.map_eq_some_iff] at present
  obtain ⟨value, -, isTable⟩ := present
  cases value with
  | text | integer | decimal | boolean | array => cases isTable
  | moment => cases isTable; exact List.pairwise_singleton ..
  | table entries => cases isTable; exact Value.ordered_ofTomlEntries origin entries

theorem Document.Sectioned.ofTomlEntries (sectioned : Document.Sectioned document) :
    Settings.Sectioned (ofTomlEntries origin document) := by
  intro name known value present
  rw [lookup_ofTomlEntries, Option.map_eq_some_iff] at present
  obtain ⟨value, present, rfl⟩ := present
  obtain ⟨inner, rfl⟩ := sectioned name known value present
  exact ⟨origin, _, rfl⟩

theorem below?_ofTomlEntries (sectioned : Document.Sectioned document) {name : String}
    (known : name ∈ sectionNames) (key : String) :
    Value.below? name key (ofTomlEntries origin document) =
      (Document.below? name key document).map (ofToml origin) := by
  unfold Value.below? Document.below?
  rw [lookup_ofTomlEntries]
  cases present : document.lookup name with
  | none => rfl
  | some value =>
    obtain ⟨inner, rfl⟩ := sectioned name known value present
    exact lookup_ofTomlEntries origin inner key

theorem content?_ofTomlEntries (sectioned : Document.Sectioned document) :
    Value.content? (ofTomlEntries origin document) = Document.content? document := by
  funext setting
  unfold Value.content? Document.content?
  rw [below?_ofTomlEntries sectioned setting.sectionName_mem]
  cases Document.below? setting.sectionName setting.key document with
  | none => rfl
  | some value => exact setting.kind.ofValue?_ofToml origin value

theorem declared_ofTomlEntries_iff (sectioned : Document.Sectioned document) :
    Declared (ofTomlEntries origin document) ↔ Document.Declared document := by
  constructor
  · intro declared
    refine ⟨sectioned, fun {name value} present => ?_, fun {name key value} known present => ?_⟩
    · exact declared.sections ((lookup_ofTomlEntries origin document name).trans
        (congrArg (Option.map (ofToml origin)) present))
    · have below := @below?_ofTomlEntries document origin sectioned name known key
      rw [present, Option.map_some] at below
      obtain ⟨setting, belongs, isNamed, fits⟩ := declared.settings known below
      exact ⟨setting, belongs, isNamed, setting.kind.ofValue?_ofToml origin value ▸ fits⟩
  · intro declared
    refine ⟨sectioned.ofTomlEntries, fun {name value} present => ?_,
      fun {name key value} known present => ?_⟩
    · rw [lookup_ofTomlEntries, Option.map_eq_some_iff] at present
      obtain ⟨value, present, -⟩ := present
      exact declared.sections present
    · rw [below?_ofTomlEntries sectioned known, Option.map_eq_some_iff] at present
      obtain ⟨value, present, rfl⟩ := present
      simp only [Kind.ofValue?_ofToml]
      exact declared.settings known present

/-- A document is checked as the layer that it makes. -/
theorem Document.declared_of_isDeclared
    (checked : isDeclared (ofTomlEntries .inline document) = true) :
    Document.Declared document := by
  have declared := Settings.declared_of_isDeclared checked
  have sectioned : Document.Sectioned document := by
    intro name known value present
    have isEntry := (lookup_ofTomlEntries .inline document name).trans
      (congrArg (Option.map (ofToml .inline)) present)
    obtain ⟨place, inner, isTable⟩ := declared.sectioned name known _ isEntry
    cases value with
    | table inner => exact ⟨inner, rfl⟩
    | text | integer | decimal | boolean | array => cases isTable
    | moment written =>
      -- As a layer, a moment is a table too, but its key is that of no setting.
      have below : Value.below? name Value.momentKey (ofTomlEntries .inline document) =
          some (.scalar .inline (.text written)) := by
        rw [Value.below?, isEntry]
        rfl
      obtain ⟨setting, -, isNamed, -⟩ := declared.settings known below
      cases setting <;> exact absurd isNamed (by decide)
  exact (declared_ofTomlEntries_iff sectioned).mp declared

/-- A document that has nothing but settings is a layer of them. -/
theorem Document.Declared.gives (declared : Document.Declared document) (origin : Origin) :
    Gives (ofToml origin (.table document)) (Document.content? document) :=
  ⟨origin, ofTomlEntries origin document, rfl, tidy_ofTomlEntries origin document,
    (declared_ofTomlEntries_iff declared.sectioned).mpr declared,
    content?_ofTomlEntries declared.sectioned⟩

/-! ## What is refused about a document -/

/-- A value of another kind is refused for its type, except for a negative number of seconds. -/
theorem complaint_ofToml {kind : Kind} {value : Toml.Value}
    (notNumber : kind = .seconds → ∀ number, value ≠ .integer number) :
    kind.complaint (ofToml origin value) =
      .wrongType (ofToml origin value).inWords kind.expected := by
  cases kind with
  | text | optionalText | category => rfl
  | seconds =>
    cases value with
    | integer number => exact absurd rfl (notNumber rfl number)
    | text | decimal | boolean | moment | array | table => rfl

/-- The wording of the refusal of a negative number of seconds. -/
theorem message_negative (number : Int) :
    Refusal.message "/" ⟨Kind.seconds.complaint (ofToml .inline (.integer number)),
        ["store", "timeout_secs"], .inline⟩ =
      "invalid value signed int `" ++ toString number ++
        "`, expected u64 for key \"default.store.timeout_secs\" in TOML source string" := by
  have before : "invalid value signed int `" = "invalid value " ++ "signed int `" := rfl
  have behind : "`, expected u64 for key \"default.store.timeout_secs\" in TOML source string" =
      "`" ++ (", expected " ++ ("u64" ++ ((" for key " ++
        Text.quoted (Origin.inline.spell ["store", "timeout_secs"])) ++
          (" in " ++ "TOML source string")))) := by
    decide
  rw [before, behind]
  change "invalid value " ++ ("signed int `" ++ toString number ++ "`") ++ ", expected " ++ "u64" ++
    (" for key " ++ Text.quoted (Origin.inline.spell ["store", "timeout_secs"])) ++ " in " ++
      "TOML source string" = _
  simp only [String.append_assoc]

theorem offence_of_unfit (text : String) (setting : Setting) {value : Toml.Value}
    (present : Document.below? setting.sectionName setting.key document = some value)
    (unfit : setting.kind.ofToml? value = none) :
    Document.Offence text document (Fault.ofRefusal "/" [⟨inlineName, text⟩]
      ⟨setting.kind.complaint (ofToml .inline value), [setting.sectionName, setting.key],
        .inline⟩) := by
  by_cases isNumber : setting = .timeout ∧ ∃ number, value = .integer number
  · obtain ⟨rfl, number, rfl⟩ := isNumber
    have negative : number < 0 := by
      by_contra natural
      have fits : Kind.seconds.ofToml? (.integer number) = some (.seconds number.toNat) :=
        if_pos (Int.not_lt.mp natural)
      exact nomatch unfit.symm.trans fits
    have offence : Document.Offence text document _ := .negative present negative
    rw [← message_negative] at offence
    exact offence
  · have notNumber : setting = .timeout → ∀ number, value ≠ .integer number :=
      fun isTimeout number isInteger => isNumber ⟨isTimeout, number, isInteger⟩
    rw [complaint_ofToml]
    · exact .wrongType setting present unfit notNumber
    · intro isSeconds
      refine notNumber ?_
      cases setting <;> first | rfl | cases isSeconds

theorem offence_of_refused (text : String) (sectioned : Document.Sectioned document)
    {refusal : Refusal} (refused : Refused (ofTomlEntries .inline document) refusal) :
    Document.Offence text document (Fault.ofRefusal "/" [⟨inlineName, text⟩] refusal) := by
  obtain ⟨present, unknown⟩ | ⟨known, present, objection⟩ := refused
  · rw [lookup_ofTomlEntries, Option.map_eq_some_iff] at present
    obtain ⟨value, present, rfl⟩ := present
    rw [Value.origin_ofToml]
    exact .straySection present unknown
  · rw [below?_ofTomlEntries sectioned known, Option.map_eq_some_iff] at present
    obtain ⟨value, present, rfl⟩ := present
    cases objection with
    | stray unknown =>
      rw [Value.origin_ofToml]
      exact .strayKey known present unknown
    | unfit setting isNamed unfit =>
      obtain ⟨rfl, rfl⟩ := isNamed
      rw [Kind.ofValue?_ofToml] at unfit
      rw [Value.origin_ofToml]
      exact offence_of_unfit text setting present unfit

/-! ## Loading a text -/

/-- A text of a document loads as the document over the built-in settings. -/
theorem ofLayers_textLayers {text : String} (wellFormed : Toml.Document.read text = .ok document) :
    ∃ lower, Tidy lower ∧ Declared lower ∧
      ofLayers (textLayers text) =
        match Extraction.settings
          (.table .inline (Value.coverEntries (ofTomlEntries .inline document) lower)) with
        | .ok settings => .ok settings
        | .error refusal => .error [refusal] := by
  obtain ⟨place, lower, isTable, tidy, declared, -⟩ := gives_builtIn.cover (gives_nothing .builtIn)
  refine ⟨lower, tidy, declared, ?_⟩
  have isLayer : Layer.ofToml .inline text = .ok (ofToml .inline (.table document)) := by
    rw [Layer.ofToml, wellFormed]
  have stacked : stack (textLayers text) =
      .table .inline (Value.coverEntries (ofTomlEntries .inline document) lower) := by
    unfold stack textLayers
    rw [isLayer]
    change Value.cover _ (Value.cover (toValue {}) (.table .builtIn [])) = _
    rw [isTable, ofToml, Value.cover]
  rw [ofLayers, stacked, textLayers, isLayer]
  rfl

/-- A document that has nothing but settings loads, and sets what it has. -/
theorem Document.Declared.loads {text : String}
    (wellFormed : Toml.Document.read text = .ok document) (declared : Document.Declared document) :
    ∃ settings, ofLayers (textLayers text) = .ok settings ∧ ∀ setting : Setting,
      setting.of settings = (Document.content? document setting).getD (setting.of {}) := by
  have isLayer : Layer.ofToml .inline text = .ok (ofToml .inline (.table document)) := by
    rw [Layer.ofToml, wellFormed]
  have layersGive := AllGive.cons gives_builtIn (.single (declared.gives .inline))
  rw [← isLayer] at layersGive
  obtain ⟨settings, loaded, holds⟩ := layersGive.ofLayers_eq
  refine ⟨settings, loaded, fun setting => ?_⟩
  rw [holds, Option.getD_or, Option.getD_some]

/-- Each setting of such a document holds exactly the value there, or what is built in. -/
theorem Document.Declared.holds {text : String} {settings : Settings}
    (declared : Document.Declared document) (wellFormed : Toml.Document.read text = .ok document)
    (loaded : ofLayers (textLayers text) = .ok settings) (setting : Setting) :
    (∀ value, Document.below? setting.sectionName setting.key document = some value →
      setting.kind.ofToml? value = some (setting.of settings)) ∧
    (Document.below? setting.sectionName setting.key document = none →
      setting.of settings = setting.of {}) := by
  obtain ⟨same, again, holds⟩ := declared.loads wellFormed
  obtain rfl := Except.ok.inj (again.symm.trans loaded)
  rw [holds, Document.content?]
  refine ⟨fun value present => ?_, fun absent => by rw [absent]; rfl⟩
  obtain ⟨other, belongs, isNamed, fits⟩ := declared.settings setting.sectionName_mem present
  obtain rfl := Setting.eq_of_named belongs isNamed
  obtain ⟨content, isContent⟩ := Option.isSome_iff_exists.mp fits
  rw [present, Option.bind_some, isContent, Option.getD_some]

/-- A document loads exactly if it has nothing but settings, each with a value of its kind. Then
it sets just what it has and leaves all else as built in, and if what it sets is not valid, every
fault is about a setting that it has. A document that does not load has one fault, about a key
that stands in the way. -/
theorem text_loads_iff_declared {text : String} {document : Toml.Entries}
    (wellFormed : Toml.Document.read text = .ok document)
    (sectioned : Document.Sectioned document) :
    ((∃ settings, ofLayers (textLayers text) = .ok settings) ↔ Document.Declared document) ∧
    (∀ settings, ofLayers (textLayers text) = .ok settings →
      (∀ setting : Setting,
        (∀ value, Document.below? setting.sectionName setting.key document = some value →
          setting.kind.ofToml? value = some (setting.of settings)) ∧
        (Document.below? setting.sectionName setting.key document = none →
          setting.of settings = setting.of {})) ∧
      ∀ faults, ofText text = .error faults → faults ≠ [] ∧ ∀ fault ∈ faults,
        ∃ (setting : Setting) (value : Toml.Value) (detail : String),
          Document.below? setting.sectionName setting.key document = some value ∧
          fault = .invalid (setting.fullName ++ detail)) ∧
    ∀ refusals, ofLayers (textLayers text) = .error refusals →
      ∃ fault, ofText text = .error [fault] ∧ Document.Offence text document fault := by
  obtain ⟨lower, tidyLower, declaredLower, loads⟩ := ofLayers_textLayers wellFormed
  have tidy := tidy_ofTomlEntries .inline document
  have isSectioned : Sectioned (ofTomlEntries .inline document) := sectioned.ofTomlEntries
  have tidyBoth := tidy.coverEntries tidyLower
  have sectionedBoth := isSectioned.coverEntries tidy declaredLower.sectioned
  have declaredOf {settings} (loaded : ofLayers (textLayers text) = .ok settings) :
      Document.Declared document := by
    rw [loads] at loaded
    split at loaded
    · rename_i read
      have declared := (settings_of_ok read tidyBoth sectionedBoth).1
      rw [declared_coverEntries_iff tidy isSectioned declaredLower] at declared
      exact (declared_ofTomlEntries_iff sectioned).mp declared
    · cases loaded
  refine ⟨⟨fun ⟨settings, loaded⟩ => declaredOf loaded, fun declared => ?_⟩,
    fun settings loaded => ?_, fun refusals failed => ?_⟩
  · obtain ⟨settings, loaded, -⟩ := declared.loads wellFormed
    exact ⟨settings, loaded⟩
  · have holds := (declaredOf loaded).holds wellFormed loaded
    refine ⟨holds, fun faults failed => ?_⟩
    rw [ofText, loaded, conclude] at failed
    obtain ⟨nonempty, concerns⟩ := Validation.faults_of_check failed
    refine ⟨nonempty, fun fault member => ?_⟩
    obtain ⟨setting, detail, isFault, differs⟩ := concerns fault member
    cases present : Document.below? setting.sectionName setting.key document with
    | none => exact absurd ((holds setting).2 present) differs
    | some value => exact ⟨setting, value, detail, present, isFault⟩
  · rw [loads] at failed
    split at failed
    · cases failed
    · rename_i refusal read
      have refused := settings_of_error read tidyBoth sectionedBoth
      rw [refused_coverEntries_iff tidy isSectioned declaredLower] at refused
      refine ⟨_, ?_, offence_of_refused text sectioned refused⟩
      rw [ofText, loads, read]
      rfl

/-- A text with a number of seconds is well formed, has its only section as a table, and loads
with that number. -/
theorem text_loads_seconds :
    Toml.Document.read "[store]\ntimeout_secs = 5\n" =
      .ok [("store", .table [("timeout_secs", .integer 5)])] ∧
    Document.Sectioned [("store", .table [("timeout_secs", .integer 5)])] ∧
    ∃ settings, ofLayers (textLayers "[store]\ntimeout_secs = 5\n") = .ok settings ∧
      Setting.timeout.of settings = .seconds 5 := by
  have wellFormed : Toml.Document.read "[store]\ntimeout_secs = 5\n" =
      .ok [("store", .table [("timeout_secs", .integer 5)])] := by
    decide +kernel
  have declared : Document.Declared [("store", .table [("timeout_secs", .integer 5)])] :=
    Document.declared_of_isDeclared (by decide)
  obtain ⟨loads, holds, -⟩ := text_loads_iff_declared wellFormed declared.sectioned
  obtain ⟨settings, loaded⟩ := loads.mpr declared
  exact ⟨wellFormed, declared.sectioned, settings, loaded,
    (Option.some.inj (((holds settings loaded).1 .timeout).1 (.integer 5) rfl)).symm⟩

end Settings

end SecretRefs
