import SecretRefs.Proofs.Text.Blank
import SecretRefs.Proofs.Text.Occurrence
import SecretRefs.Settings.Environment

/-!
# Names of variables

What the name of a variable for a key of a section spells. The name of the section is cut off
where it ends, whatever the key is, since the other names of sections do not begin in it. The key
itself stays whole exactly if it is `Undivided`: the name of another section with an underscore in
it would be cut off as well, in the middle of the key.
-/

namespace SecretRefs.Settings.Environment

/-- The name of the variable for a key of a section. -/
def variableFor (sectionName key : String) : String :=
  namePrefix ++ Text.asciiUpper sectionName ++ "_" ++ key

/-- A text without dots and blanks. Letters, digits and underscores are neither. -/
def IsWord (text : String) : Prop :=
  ∀ c ∈ text.toList, c ≠ '.' ∧ Text.isBlank c = false

instance (text : String) : Decidable (IsWord text) :=
  List.decidableBAll _ text.toList

/-- A key of a section that does not have the name of another section with an underscore in it. -/
def Undivided (sectionName key : String) : Prop :=
  key ≠ "" ∧ ∀ other ∈ sectionNames, other ≠ sectionName → ¬ (other ++ "_").toList <:+: key.toList

/-- A key with the underscore behind the first occurrence of each of some names replaced by a
dot. -/
def divideBy (names : List String) (key : List Char) : List Char :=
  names.foldl
    (fun key name => Text.replaceFirst (name.toList ++ ['_']) (name.toList ++ ['.']) key) key

variable {sectionName : String} {names : List String} {chars : List Char}

theorem divideBy_cons (name : String) (names : List String) (chars : List Char) :
    divideBy (name :: names) chars = divideBy names
      (Text.replaceFirst (name.toList ++ ['_']) (name.toList ++ ['.']) chars) := rfl

theorem divideBy_append (first second : List String) (chars : List Char) :
    divideBy (first ++ second) chars = divideBy second (divideBy first chars) :=
  List.foldl_append

/-! ## The section -/

theorem nodup_sectionNames : sectionNames.Nodup := by decide

/-- The name of no section begins in that of another one. -/
theorem mayBegin_sectionNames : ∀ one ∈ sectionNames, ∀ other ∈ sectionNames, other ≠ one →
    Text.mayBegin (other.toList ++ ['_']) (one.toList ++ ['_']) = false ∧
      Text.mayBegin (other.toList ++ ['_']) (one.toList ++ ['.']) = false := by
  decide

/-- Other names leave the name of a section alone, before and after it is cut off. -/
theorem divideBy_behind (known : sectionName ∈ sectionNames)
    (others : ∀ other ∈ names, other ∈ sectionNames ∧ other ≠ sectionName) {separator : Char}
    (separates : separator = '_' ∨ separator = '.') (chars : List Char) :
    divideBy names (sectionName.toList ++ separator :: chars) =
      sectionName.toList ++ separator :: divideBy names chars := by
  induction names generalizing chars with
  | nil => rfl
  | cons other rest inductionHypothesis =>
    obtain ⟨⟨isSection, differs⟩, others⟩ := List.forall_mem_cons.mp others
    have passed : Text.mayBegin (other.toList ++ ['_']) (sectionName.toList ++ [separator]) =
        false := by
      rcases separates with rfl | rfl
      · exact (mayBegin_sectionNames _ known _ isSection differs).1
      · exact (mayBegin_sectionNames _ known _ isSection differs).2
    rw [divideBy_cons, List.append_cons sectionName.toList, Text.replaceFirst_append passed,
      ← List.append_cons, inductionHypothesis others, ← divideBy_cons]

/-- The name of the section is cut off, and the other names are looked for in the key. -/
theorem divide_section (known : sectionName ∈ sectionNames) (chars : List Char) :
    divide (sectionName.toList ++ '_' :: chars) =
      sectionName.toList ++ '.' :: divideBy (sectionNames.erase sectionName) chars := by
  obtain ⟨before, after, notBefore, isSplit, erased⟩ := List.exists_erase_eq known
  have isOther (other : String) (member : other ∈ before ++ after) :
      other ∈ sectionNames ∧ other ≠ sectionName := by
    rw [← erased, nodup_sectionNames.mem_erase_iff] at member
    exact member.symm
  have othersBefore := fun other member => isOther other (List.mem_append_left after member)
  have othersAfter := fun other member => isOther other (List.mem_append_right before member)
  calc divide (sectionName.toList ++ '_' :: chars)
      = divideBy (before ++ sectionName :: after) (sectionName.toList ++ '_' :: chars) := by
        rw [← isSplit]
        rfl
    _ = divideBy (sectionName :: after) (sectionName.toList ++ '_' :: divideBy before chars) := by
        rw [divideBy_append, divideBy_behind known othersBefore (.inl rfl)]
    _ = divideBy after (sectionName.toList ++ '.' :: divideBy before chars) := by
        rw [divideBy_cons, List.append_cons sectionName.toList '_' (divideBy before chars),
          Text.replaceFirst_begins (by simp), ← List.append_cons]
    _ = sectionName.toList ++ '.' :: divideBy (sectionNames.erase sectionName) chars := by
        rw [divideBy_behind known othersAfter (.inr rfl), erased, divideBy_append]

/-! ## The key -/

/-- A key is divided exactly if it gets a dot. -/
theorem noDot_divideBy_iff :
    '.' ∉ divideBy names chars ↔
      '.' ∉ chars ∧ ∀ name ∈ names, ¬ name.toList ++ ['_'] <:+: chars := by
  induction names generalizing chars with
  | nil => simp [divideBy]
  | cons name rest inductionHypothesis =>
    rw [divideBy_cons, inductionHypothesis, List.forall_mem_cons]
    by_cases occurs : name.toList ++ ['_'] <:+: chars
    · have dotted : '.' ∈ Text.replaceFirst (name.toList ++ ['_']) (name.toList ++ ['.']) chars :=
        Text.mem_replaceFirst_of_infix occurs (by simp)
      simp [dotted, occurs]
    · rw [Text.replaceFirst_eq_self occurs]
      simp [occurs]

theorem divideBy_eq_self (absent : ∀ name ∈ names, ¬ name.toList ++ ['_'] <:+: chars) :
    divideBy names chars = chars := by
  induction names with
  | nil => rfl
  | cons name rest inductionHypothesis =>
    obtain ⟨here, later⟩ := List.forall_mem_cons.mp absent
    rw [divideBy_cons, Text.replaceFirst_eq_self here]
    exact inductionHypothesis later

theorem undivided_iff {key : String} :
    Undivided sectionName key ↔
      key ≠ "" ∧ ∀ other ∈ sectionNames.erase sectionName,
        ¬ other.toList ++ ['_'] <:+: key.toList := by
  refine and_congr_right fun _ => forall_congr' fun other => ?_
  rw [nodup_sectionNames.mem_erase_iff, and_imp, imp.swap, String.toList_append]
  rfl

theorem isBlank_divideBy (named : ∀ name ∈ names, ∀ c ∈ name.toList, Text.isBlank c = false)
    (plain : ∀ c ∈ chars, Text.isBlank c = false) :
    ∀ c ∈ divideBy names chars, Text.isBlank c = false := by
  induction names generalizing chars with
  | nil => exact plain
  | cons name rest inductionHypothesis =>
    obtain ⟨here, later⟩ := List.forall_mem_cons.mp named
    refine inductionHypothesis later fun c member => ?_
    rcases Text.mem_of_mem_replaceFirst member with kept | put
    · exact plain c kept
    · rcases List.mem_append.mp put with inName | isDot
      · exact here c inName
      · rw [List.mem_singleton.mp isDot]
        rfl

theorem IsWord.asciiLower {text : String} (isWord : IsWord text) :
    IsWord (Text.asciiLower text) := by
  intro c member
  rw [Text.asciiLower, String.toList_ofList] at member
  obtain ⟨before, inText, rfl⟩ := List.mem_map.mp member
  obtain ⟨noDot, notBlank⟩ := isWord before inText
  exact ⟨fun isDot => noDot (Text.eq_of_toLower_eq isDot (by decide)),
    by rw [Text.isBlank_toLower, notBlank]⟩

/-! ## The whole name -/

theorem asciiLower_asciiUpper : ∀ name ∈ sectionNames,
    Text.asciiLower (Text.asciiUpper name) = name := by
  decide

theorem toList_asciiLower_variableFor (known : sectionName ∈ sectionNames) (key : String) :
    (Text.asciiLower (variableFor sectionName key)).toList =
      (Text.asciiLower namePrefix).toList ++
        (sectionName.toList ++ '_' :: (Text.asciiLower key).toList) := by
  have lowered := congrArg String.toList (asciiLower_asciiUpper _ known)
  simp only [Text.asciiLower, String.toList_ofList] at lowered ⊢
  simp only [variableFor, String.toList_append, List.map_append, lowered, List.append_assoc]
  rfl

theorem isWord_of_mem_sectionNames : ∀ one ∈ sectionNames, IsWord one := by
  decide

section Named

variable {key name : String} (known : sectionName ∈ sectionNames) (isWord : IsWord key)
  (isNamed : Text.asciiLower name = Text.asciiLower (variableFor sectionName key))

include known isNamed in
theorem map_toLower_of_named :
    name.toList.map Char.toLower = (Text.asciiLower namePrefix).toList ++
      (sectionName.toList ++ '_' :: (Text.asciiLower key).toList) := by
  rw [← toList_asciiLower_variableFor known key, ← isNamed, Text.asciiLower, String.toList_ofList]

include known isWord isNamed in
/-- In the name of a variable there is nothing to trim. -/
theorem isBlank_of_named : ∀ c ∈ name.toList, Text.isBlank c = false := by
  intro c member
  have inLowered : c.toLower ∈ name.toList.map Char.toLower := List.mem_map_of_mem member
  rw [map_toLower_of_named known isNamed] at inLowered
  simp only [List.mem_append, List.mem_cons] at inLowered
  have startWord : IsWord (Text.asciiLower namePrefix) := by decide
  rw [← Text.isBlank_toLower]
  rcases inLowered with inStart | inSection | isUnderscore | inKey
  · exact (startWord _ inStart).2
  · exact (isWord_of_mem_sectionNames _ known _ inSection).2
  · rw [isUnderscore]
    rfl
  · exact (isWord.asciiLower _ inKey).2

include known isWord in
/-- Nor is there in what is left of it behind its start, once this is divided. -/
theorem isBlank_divide :
    ∀ c ∈ divide (sectionName.toList ++ '_' :: key.toList), Text.isBlank c = false := by
  rw [divide_section known]
  intro c member
  rcases List.mem_append.mp member with inSection | behind
  · exact (isWord_of_mem_sectionNames _ known _ inSection).2
  · rcases List.mem_cons.mp behind with rfl | inKey
    · rfl
    · refine isBlank_divideBy (fun one member c inName => ?_)
        (fun c inKey => (isWord c inKey).2) c inKey
      exact (isWord_of_mem_sectionNames one (List.mem_of_mem_erase member) c inName).2

include known isWord isNamed in
/-- The name of a variable for a key of a section spells the section and the parts of the key. -/
theorem keyOfName?_variableFor :
    keyOfName? name =
      let parts := sectionName.toList :: Text.parts (· == '.')
        (divideBy (sectionNames.erase sectionName) (Text.asciiLower key).toList)
      if parts.any List.isEmpty then none else some (parts.map String.ofList) := by
  have begins : (Text.asciiLower namePrefix).toList.isPrefixOf? (name.toList.map Char.toLower) =
      some (sectionName.toList ++ '_' :: (Text.asciiLower key).toList) :=
    List.isPrefixOf?_eq_some_iff_append_eq.mpr (map_toLower_of_named known isNamed).symm
  have noDot : ∀ c ∈ sectionName.toList, (c == '.') = false :=
    fun c member => beq_false_of_ne (isWord_of_mem_sectionNames _ known c member).1
  unfold keyOfName?
  rw [Text.trimChars_of_noBlank (isBlank_of_named known isWord isNamed)]
  simp only [begins]
  rw [Text.trimChars_of_noBlank (isBlank_divide known isWord.asciiLower), divide_section known,
    Text.parts_append_cons noDot rfl]

include known isWord isNamed in
/-- A name that spells only one part besides the section is one for a key that is not divided. -/
theorem undivided_of_spelled {part : String}
    (spelled : keyOfName? name = some [sectionName, part]) :
    Undivided sectionName (Text.asciiLower key) := by
  rw [keyOfName?_variableFor known isWord isNamed] at spelled
  dsimp only at spelled
  split at spelled
  · cases spelled
  rename_i filled
  have one : Text.parts (· == '.')
      (divideBy (sectionNames.erase sectionName) (Text.asciiLower key).toList) =
        [part.toList] := by
    refine List.map_injective_iff.mpr (fun _ _ same => String.ofList_injective same) ?_
    simpa using spelled
  obtain ⟨isPart, noDot⟩ := Text.parts_eq_singleton_iff.mp one
  have absent := (noDot_divideBy_iff.mp fun dot => by simpa using noDot '.' dot).2
  rw [divideBy_eq_self absent] at isPart
  refine undivided_iff.mpr ⟨fun empty => ?_, absent⟩
  rw [one, isPart, empty] at filled
  simp at filled

include known isWord isNamed in
/-- The name of a variable for a key of a section spells just the section and the key if the key
is not divided, and only then. -/
theorem keyOfName?_eq_iff_undivided :
    keyOfName? name = some [sectionName, Text.asciiLower key] ↔
      Undivided sectionName (Text.asciiLower key) := by
  refine ⟨undivided_of_spelled known isWord isNamed, fun undivided => ?_⟩
  obtain ⟨nonempty, absent⟩ := undivided_iff.mp undivided
  have sectionFilled : ∀ one ∈ sectionNames, one.toList.isEmpty = false := by decide
  have keyFilled : (Text.asciiLower key).toList.isEmpty = false := by
    rwa [← Bool.not_eq_true, List.isEmpty_iff, ← String.toList_empty, String.toList_inj]
  have whole : divideBy (sectionNames.erase sectionName) (Text.asciiLower key).toList =
      (Text.asciiLower key).toList :=
    divideBy_eq_self absent
  have one : Text.parts (· == '.') (Text.asciiLower key).toList =
      [(Text.asciiLower key).toList] :=
    Text.parts_eq_singleton_iff.mpr
      ⟨rfl, fun c member => beq_false_of_ne (isWord.asciiLower c member).1⟩
  rw [keyOfName?_variableFor known isWord isNamed]
  simp only [whole, one, List.any_cons, List.any_nil, sectionFilled _ known, keyFilled,
    Bool.or_false, Bool.false_eq_true, if_false, List.map_cons, List.map_nil, String.ofList_toList]

include known isWord isNamed in
/-- What the name of a variable for a divided key spells has at least three parts. -/
theorem longer_of_divided (divided : ¬ Undivided sectionName (Text.asciiLower key))
    {path : List String} (spelled : keyOfName? name = some path) :
    ∃ first second rest, path = sectionName :: first :: second :: rest := by
  have isPath := spelled
  rw [keyOfName?_variableFor known isWord isNamed] at isPath
  dsimp only at isPath
  split at isPath
  · cases isPath
  · rw [List.map_cons, String.ofList_toList, Option.some.injEq] at isPath
    subst isPath
    cases parts : Text.parts (· == '.')
        (divideBy (sectionNames.erase sectionName) (Text.asciiLower key).toList) with
    | nil => exact absurd parts (Text.parts_ne_nil _ _)
    | cons first rest =>
      cases rest with
      | nil =>
        rw [parts] at spelled
        exact absurd (undivided_of_spelled known isWord isNamed spelled) divided
      | cons second rest => exact ⟨_, _, _, rfl⟩

end Named

end SecretRefs.Settings.Environment
