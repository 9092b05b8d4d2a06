import SecretRefs.Proofs.Settings.Schema
import SecretRefs.Proofs.Text.Blank
import SecretRefs.Settings.Validation

/-!
# Validated settings

What is found to be wrong with settings that could be read. Every detail starts with the name of
a setting, and it is one that does not hold what is built in, because nothing is wrong with the
built-in settings. Of a URL that is accepted only the trimmed text is known to have a scheme.
-/

namespace SecretRefs.Settings.Validation

/-- A detail about a setting that does not hold what is built in. -/
def Concerns (settings : Settings) (detail : String) (setting : Setting) : Prop :=
  (∃ rest, detail = setting.fullName ++ rest) ∧ setting.of settings ≠ setting.of {}

theorem concerns_of_mem_urlFaults {settings : Settings} {detail : String}
    (found : detail ∈ urlFaults settings.store.connectUrl) :
    Concerns settings detail .connectUrl := by
  constructor
  · unfold urlFaults at found
    simp only at found
    split at found
    · exact ⟨" must not be empty", List.mem_singleton.mp found⟩
    · split at found
      · cases found
      · refine ⟨" `" ++ (Text.trim settings.store.connectUrl ++
          "` must start with http:// or https://"), ?_⟩
        have opening : "store.connect_url `" = Setting.connectUrl.fullName ++ " `" := by decide
        rw [List.mem_singleton.mp found, opening]
        simp only [String.append_assoc]
  · intro isBuiltIn
    have same : settings.store.connectUrl = ({} : StoreSettings).connectUrl :=
      Setting.Content.text.inj isBuiltIn
    have nothing : urlFaults ({} : StoreSettings).connectUrl = [] := by decide
    rw [same, nothing] at found
    cases found

/-- A blank text concerns the setting that its detail is about. -/
theorem concerns_of_mem_blankFaults {settings : Settings} {detail value standard : String}
    {setting : Setting} (rest : String) (found : detail ∈ blankFaults value (setting.fullName ++ rest))
    (holds : setting.of settings = .text value) (builtIn : setting.of {} = .text standard)
    (valid : Text.isBlankText standard = false) : Concerns settings detail setting := by
  unfold blankFaults at found
  split at found
  · rename_i blank
    refine ⟨⟨rest, List.mem_singleton.mp found⟩, fun isBuiltIn => ?_⟩
    rw [holds, builtIn] at isBuiltIn
    rw [Setting.Content.text.inj isBuiltIn, valid] at blank
    cases blank
  · cases found

theorem concerns_of_mem_levelFaults {settings : Settings} {detail : String}
    (found : detail ∈ levelFaults settings.log.level) : Concerns settings detail .level := by
  constructor
  · unfold levelFaults at found
    split at found
    · cases found
    · refine ⟨" `" ++ (settings.log.level ++ ("` is not one of " ++ ", ".intercalate levels)), ?_⟩
      have opening : "logging.level `" = Setting.level.fullName ++ " `" := by decide
      rw [List.mem_singleton.mp found, opening]
      simp only [String.append_assoc]
  · intro isBuiltIn
    have same : settings.log.level = ({} : LogSettings).level :=
      Setting.Content.text.inj isBuiltIn
    have nothing : levelFaults ({} : LogSettings).level = [] := by decide
    rw [same, nothing] at found
    cases found

/-- Everything that is wrong with settings concerns one of them. -/
theorem exists_concerns {settings : Settings} {detail : String}
    (found : detail ∈ details settings) : ∃ setting, Concerns settings detail setting := by
  simp only [details, List.mem_append] at found
  rcases found with (((((url | path) | start) | timeout) | vault) | field) | level
  · exact ⟨.connectUrl, concerns_of_mem_urlFaults url⟩
  · exact ⟨.tokenPath, concerns_of_mem_blankFaults " must not be empty" path rfl rfl
      (by decide)⟩
  · cases holds : settings.store.tokenStart with
    | none =>
      rw [holds] at start
      cases start
    | some value =>
      rw [holds, tokenStartFaults, blankFaults] at start
      split at start
      · refine ⟨.tokenStart, ⟨" must not be empty when set", List.mem_singleton.mp start⟩, ?_⟩
        rw [Setting.of, holds]
        exact nofun
      · cases start
  · split at timeout
    · rename_i isZero
      refine ⟨.timeout, ⟨" must be greater than 0", List.mem_singleton.mp timeout⟩, ?_⟩
      rw [Setting.of, beq_iff_eq.mp isZero]
      decide
    · cases timeout
  · exact ⟨.vault, concerns_of_mem_blankFaults " must not be empty" vault rfl rfl
      (by decide)⟩
  · exact ⟨.field, concerns_of_mem_blankFaults " must not be empty" field rfl rfl
      (by decide)⟩
  · exact ⟨.level, concerns_of_mem_levelFaults level⟩

/-- The faults of a check are about settings that do not hold what is built in. -/
theorem faults_of_check {settings : Settings} {faults : List Fault}
    (invalid : check settings = .error faults) :
    faults ≠ [] ∧ ∀ fault ∈ faults, ∃ (setting : Setting) (detail : String),
      fault = .invalid (setting.fullName ++ detail) ∧
        setting.of settings ≠ setting.of {} := by
  unfold check at invalid
  split at invalid
  · cases invalid
  · rename_i nonempty
    obtain rfl := Except.error.inj invalid
    refine ⟨fun empty => nonempty (List.map_eq_nil_iff.mp empty), fun fault member => ?_⟩
    obtain ⟨detail, found, rfl⟩ := List.mem_map.mp member
    obtain ⟨setting, ⟨rest, rfl⟩, differs⟩ := exists_concerns found
    exact ⟨setting, rest, rfl, differs⟩

/-! ## Accepted settings -/

theorem check_eq_ok_iff {settings : Settings} :
    check settings = .ok settings ↔ details settings = [] := by
  unfold check
  cases details settings with
  | nil => simp only
  | cons detail rest => simp only [reduceCtorEq]

theorem hasScheme_iff {url : String} :
    hasScheme url = true ↔ ∃ scheme ∈ schemes, scheme.toList <+: url.toList := by
  simp only [hasScheme, List.any_eq_true, List.isPrefixOf_iff_prefix]

theorem hasScheme_of_begins {start url : String} (begins : start.toList <+: url.toList)
    (schemed : hasScheme start = true) : hasScheme url = true := by
  obtain ⟨scheme, isScheme, opens⟩ := hasScheme_iff.mp schemed
  exact hasScheme_iff.mpr ⟨scheme, isScheme, opens.trans begins⟩

theorem mem_schemes_iff {scheme : String} :
    scheme ∈ schemes ↔ scheme = "http://" ∨ scheme = "https://" := by
  simp only [schemes, List.mem_cons, List.not_mem_nil, or_false]

theorem startsBlank_of_hasScheme {url : String} (schemed : hasScheme url = true) :
    Text.startsBlank url = false := by
  obtain ⟨scheme, isScheme, rest, isUrl⟩ := hasScheme_iff.mp schemed
  rw [Text.startsBlank, ← isUrl]
  obtain rfl | rfl := mem_schemes_iff.mp isScheme
  · rfl
  · rfl

/-- An accepted URL that does not begin with a blank begins with a scheme. -/
theorem hasScheme_of_accepted {url : String} (accepted : urlFaults url = [])
    (notBlank : Text.startsBlank url = false) : hasScheme url = true := by
  have schemed : hasScheme (Text.trim url) = true := by
    unfold urlFaults at accepted
    simp only at accepted
    split at accepted
    · cases accepted
    · split at accepted
      · rename_i schemed
        exact schemed
      · cases accepted
  refine hasScheme_of_begins ?_ schemed
  have kept := Text.trimChars_begins url.toList
  rwa [Text.dropBlanks_eq_self (Text.startsBlank_eq_false_iff.mp notBlank),
    ← String.toList_ofList (l := Text.trimChars url.toList)] at kept

end SecretRefs.Settings.Validation
