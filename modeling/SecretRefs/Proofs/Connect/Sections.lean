import SecretRefs.Proofs.Connect.Resolution

/-!
# Fields named with their section

A field in a section is looked for under the name of the section, a slash and its title. The text is
cut at its last slash, so the section may have slashes in its name, and a field without a slash in
its title is found under every name of its section, unless a field stands before it that has the
same name or has the whole text as its own. In the title of a field a slash is taken for the end of
the section: unless a section has the longer name, the field is not found in its section.
-/

namespace SecretRefs.Connect

section First

variable {α : Type} {property : α → Prop} {list : List α} {element : α}

theorem IsFirst.mem (isFirst : IsFirst property list element) : element ∈ list := by
  obtain ⟨before, after, rfl, -⟩ := isFirst
  exact List.mem_append_right before List.mem_cons_self

theorem IsFirst.holds (isFirst : IsFirst property list element) : property element := by
  obtain ⟨before, after, rfl, holds, -⟩ := isFirst
  exact holds

/-- If an element has a property, one is the first that has it. -/
theorem exists_isFirst (member : element ∈ list) (holds : property element) :
    ∃ first, IsFirst property list first := by
  classical
  have found : (list.find? fun one => decide (property one)).isSome :=
    List.find?_isSome.mpr ⟨element, member, decide_eq_true holds⟩
  obtain ⟨first, isFound⟩ := Option.isSome_iff_exists.mp found
  exact ⟨first, (find?_eq_some_iff_isFirst fun one => decide_eq_true_iff).mp isFound⟩

end First

/-- The name of a field with a section in front of it. -/
def inSectionName (place title : String) : String :=
  place ++ "/" ++ title

variable {item : Item} {place title front rest : String} {field : Field}

/-- A name with a section is the section and a title without slashes in one way only. -/
theorem eq_of_inSectionName_eq {other last : String} (noSlash : '/' ∉ title.toList)
    (last_noSlash : '/' ∉ last.toList)
    (same : inSectionName place title = other ++ "/" ++ last) : place = other ∧ title = last := by
  have one : cutLast? (inSectionName place title) = some (place, title) :=
    cutLast?_eq_some_iff.mpr ⟨rfl, noSlash⟩
  have two := cutLast?_eq_some_iff.mpr ⟨same, last_noSlash⟩
  exact Prod.mk.inj (Option.some.inj (one.symm.trans two))

/-- A name with a section selects a field that has the name itself, or else one of the section. -/
theorem selectField?_inSectionName_iff (noSlash : '/' ∉ title.toList) :
    selectField? item (inSectionName place title) = some field ↔
      IsFirst (Named (inSectionName place title)) item.fields field ∨
      (∀ other ∈ item.fields, ¬ Named (inSectionName place title) other) ∧
        IsFirst (fun other => Named title other ∧ InSection item place other)
          item.fields field := by
  rw [selectField?_eq_some_iff]
  constructor
  · rintro (isFirst | ⟨unnamed, cut, last, isFirst⟩)
    · exact .inl isFirst
    · obtain ⟨rfl, rfl⟩ := eq_of_inSectionName_eq noSlash last cut
      exact .inr ⟨unnamed, isFirst⟩
  · rintro (isFirst | ⟨unnamed, isFirst⟩)
    · exact .direct isFirst
    · exact .inSection unnamed rfl noSlash isFirst

/-- What a name with a section selects has the name, or is in the section and has the title. -/
theorem of_selectField?_inSectionName (noSlash : '/' ∉ title.toList)
    (selected : selectField? item (inSectionName place title) = some field) :
    field ∈ item.fields ∧ (Named (inSectionName place title) field ∨
      InSection item place field ∧ Named title field) := by
  rcases (selectField?_inSectionName_iff noSlash).mp selected with isFirst | ⟨-, isFirst⟩
  · exact ⟨isFirst.mem, .inl isFirst.holds⟩
  · exact ⟨isFirst.mem, .inr isFirst.holds.symm⟩

/-- A name with a section selects a field whenever there is one for it. -/
theorem exists_selectField?_inSectionName_iff (noSlash : '/' ∉ title.toList) :
    (∃ found, selectField? item (inSectionName place title) = some found) ↔
      ∃ other ∈ item.fields, Named (inSectionName place title) other ∨
        InSection item place other ∧ Named title other := by
  constructor
  · rintro ⟨found, selected⟩
    exact ⟨found, of_selectField?_inSectionName noSlash selected⟩
  · rintro ⟨other, member, fits⟩
    by_cases named : ∃ one ∈ item.fields, Named (inSectionName place title) one
    · obtain ⟨one, isField, hasName⟩ := named
      obtain ⟨found, isFirst⟩ := exists_isFirst isField hasName
      exact ⟨found, (selectField?_inSectionName_iff noSlash).mpr (.inl isFirst)⟩
    · have unnamed : ∀ one ∈ item.fields, ¬ Named (inSectionName place title) one :=
        fun one isField hasName => named ⟨one, isField, hasName⟩
      have inSection := fits.resolve_left (unnamed other member)
      have isFirst : ∃ found, IsFirst (fun one => Named title one ∧ InSection item place one)
          item.fields found := exists_isFirst member inSection.symm
      obtain ⟨found, isFirst⟩ := isFirst
      exact ⟨found, (selectField?_inSectionName_iff noSlash).mpr (.inr ⟨unnamed, isFirst⟩)⟩

/-- A title with a slash lengthens the name of the section. -/
theorem inSectionName_append (place front rest : String) :
    inSectionName place (front ++ "/" ++ rest) =
      inSectionName (inSectionName place front) rest := by
  simp only [inSectionName, String.append_assoc]

/-- A field of an item that is in a section, under any name that the section has. If its title has
no slash, section and title together select a field: one that has the whole text as its name, or
one in a section of that name that goes by the title. If its title has a slash, they select a field
only if one has the whole text as its name, or is in a section whose name goes on up to the last
slash. -/
theorem section_and_title_select (member : field ∈ item.fields)
    (inSection : InSection item place field) :
    ('/' ∉ field.title.toList → ∃ found,
      selectField? item (inSectionName place field.title) = some found ∧ found ∈ item.fields ∧
      (Named (inSectionName place field.title) found ∨
        InSection item place found ∧ Named field.title found)) ∧
    (∀ front rest, field.title = front ++ "/" ++ rest → '/' ∉ rest.toList →
      ((∃ found, selectField? item (inSectionName place field.title) = some found) ↔
        ∃ other ∈ item.fields, Named (inSectionName place field.title) other ∨
          InSection item (inSectionName place front) other ∧ Named rest other)) := by
  refine ⟨fun noSlash => ?_, fun front rest isTitle noSlash => ?_⟩
  · have own : Named field.title field := .inl (Text.sameTitle_self field.title)
    obtain ⟨found, selected⟩ := (exists_selectField?_inSectionName_iff noSlash).mpr
      ⟨field, member, .inr ⟨inSection, own⟩⟩
    exact ⟨found, selected, of_selectField?_inSectionName noSlash selected⟩
  · rw [isTitle, inSectionName_append]
    exact exists_selectField?_inSectionName_iff noSlash

/-- A field with a secret, in a section if one is given. -/
def sampleField (id title value : String) (place : Option String) : Field :=
  ⟨id, title, value, .concealed,
    place.toList.map fun place => ("section", .object [("id", .string place)])⟩

/-- An item with a section whose label has a slash, and with a field in it whose title has one. -/
def sampleSectioned : Item where
  id := "i"
  vaultId := "v"
  title := "Mail"
  category := .login
  fields :=
    [sampleField "f1" "password" "plain" none, sampleField "f2" "password" "sectioned" (some "s1"),
      sampleField "f3" "tls/cert" "pem" (some "s1")]
  extra := [("sections", .array [.object [("id", .string "s1"), ("label", .string "In/Out")]])]

/-- The label of a section may have a slash: what is selected is the field in the section, not the
first one with its title. -/
theorem label_with_slash_selects :
    let field := sampleField "f2" "password" "sectioned" (some "s1")
    field ∈ sampleSectioned.fields ∧ InSection sampleSectioned "In/Out" field ∧
    '/' ∉ field.title.toList ∧ ∃ found,
      selectField? sampleSectioned "In/Out/password" = some found ∧ found.value = "sectioned" ∧
      InSection sampleSectioned "In/Out" found := by
  intro field
  have member : field ∈ sampleSectioned.fields := List.mem_cons_of_mem _ List.mem_cons_self
  have inSection : InSection sampleSectioned "In/Out" field :=
    isInSection_iff.mp (by decide +kernel)
  have noSlash : '/' ∉ field.title.toList := by decide
  obtain ⟨found, selected, isField, named⟩ :=
    (section_and_title_select member inSection).1 noSlash
  have isText : inSectionName "In/Out" field.title = "In/Out/password" := by decide
  rw [isText] at selected named
  have isValue : (selectField? sampleSectioned "In/Out/password").map Field.value =
      some "sectioned" := by
    decide +kernel
  have unnamed : sampleSectioned.fields.all fun other => !isNamed "In/Out/password" other := by
    decide +kernel
  rw [selected] at isValue
  refine ⟨member, inSection, noSlash, found, selected, Option.some.inj isValue,
    (named.resolve_left fun hasName => ?_).1⟩
  have notNamed := List.all_eq_true.mp unnamed found isField
  rw [isNamed_iff.mpr hasName] at notNamed
  cases notNamed

/-- The title of a field in a section may not: its section and its title select nothing. -/
theorem title_with_slash_selects_none :
    let field := sampleField "f3" "tls/cert" "pem" (some "s1")
    field ∈ sampleSectioned.fields ∧ InSection sampleSectioned "s1" field ∧
    selectField? sampleSectioned (inSectionName "s1" field.title) = none := by
  refine ⟨by simp [sampleSectioned], isInSection_iff.mp (by decide +kernel), ?_⟩
  exact Option.isNone_iff_eq_none.mp (by decide +kernel)

end SecretRefs.Connect
