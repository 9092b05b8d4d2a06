import Mathlib.Data.List.DropRight
import SecretRefs.Text.Blank

/-!
# Blanks at the ends of a text

A trimmed text is a stretch of the text it comes from: the part from the first character that is no
blank, without the blanks at its end. So it never begins with a blank, and a text with a blank at
neither end is its own trimmed text.
-/

namespace SecretRefs.Text

/-- Only capital letters have another lower-case form. -/
theorem toLower_cases (c : Char) :
    c.toLower = c ∨ (65 ≤ c.toNat ∧ c.toNat ≤ 90 ∧ c.toLower.toNat = c.toNat + 32) := by
  unfold Char.toLower
  split
  · rename_i upper
    have low : 65 ≤ c.toNat := upper.1
    have high : c.toNat ≤ 90 := upper.2
    refine .inr ⟨low, high, ?_⟩
    change (c.val + 32).toNat = c.val.toNat + 32
    rw [UInt32.toNat_add]
    exact Nat.mod_eq_of_lt (by change c.toNat + 32 < _; omega)
  · exact .inl rfl

/-- A character is a blank exactly if its lower-case form is one. -/
theorem isBlank_toLower (c : Char) : isBlank c.toLower = isBlank c := by
  rcases toLower_cases c with same | ⟨low, high, shifted⟩
  · rw [same]
  · rw [Bool.eq_iff_iff]
    simp only [isBlank, shifted, Bool.or_eq_true, Bool.and_eq_true, decide_eq_true_eq, beq_iff_eq]
    omega

/-- A character that comes before the small letters is the lower-case form of itself alone. -/
theorem eq_of_toLower_eq {c form : Char} (same : c.toLower = form) (before : form.toNat < 97) :
    c = form := by
  rcases toLower_cases c with unchanged | ⟨low, -, shifted⟩
  · rw [← unchanged, same]
  · rw [same] at shifted
    omega

/-- Whether a text begins with a blank. -/
def startsBlank (text : String) : Bool :=
  text.toList.head?.any isBlank

theorem startsBlank_eq_false_iff {text : String} :
    startsBlank text = false ↔ ∀ c ∈ text.toList.head?, isBlank c = false := by
  unfold startsBlank
  cases text.toList.head? with
  | none => simp
  | some c => simp

theorem startsBlank_append {front back : String} (frontNotBlank : startsBlank front = false)
    (backNotBlank : startsBlank back = false) : startsBlank (front ++ back) = false := by
  rw [startsBlank, String.toList_append]
  cases chars : front.toList with
  | nil => exact backNotBlank
  | cons c rest =>
    rw [startsBlank, chars] at frontNotBlank
    exact frontNotBlank

theorem mem_head?_of_begins {start chars : List Char} (begins : start <+: chars) {c : Char}
    (first : c ∈ start.head?) : c ∈ chars.head? := by
  obtain ⟨rest, rfl⟩ := begins
  cases start with
  | nil => cases first
  | cons head tail => exact first

/-- A text that does not begin with a blank has no beginning that does. -/
theorem startsBlank_of_begins {start text : String} (begins : start.toList <+: text.toList)
    (notBlank : startsBlank text = false) : startsBlank start = false := by
  rw [startsBlank_eq_false_iff] at notBlank ⊢
  exact fun c first => notBlank c (mem_head?_of_begins begins first)

theorem dropBlanks_eq_self {chars : List Char} (first : ∀ c ∈ chars.head?, isBlank c = false) :
    dropBlanks chars = chars := by
  cases chars with
  | nil => rfl
  | cons c rest => simp [dropBlanks, first c rfl]

theorem notBlank_of_mem_head?_dropBlanks {chars : List Char} {c : Char}
    (first : c ∈ (dropBlanks chars).head?) : isBlank c = false := by
  have kept := List.head?_dropWhile_not isBlank chars
  rw [dropBlanks] at first
  rw [Option.mem_def.mp first] at kept
  exact kept

section Indented

variable {indent rest : List Char} (blank : ∀ c ∈ indent, isBlank c = true)
  (stop : ∀ c ∈ rest.head?, isBlank c = false)

include blank stop

/-- What is dropped are the blanks up to the first character that is none. -/
theorem dropBlanks_append : dropBlanks (indent ++ rest) = rest := by
  rw [dropBlanks, List.dropWhile_append_of_pos blank]
  exact dropBlanks_eq_self stop

theorem takeWhile_isBlank_append : (indent ++ rest).takeWhile isBlank = indent := by
  have whole := List.takeWhile_append_dropWhile (p := isBlank) (l := indent ++ rest)
  rw [← dropBlanks, dropBlanks_append blank stop] at whole
  exact List.append_cancel_right whole

end Indented

theorem trimChars_begins (chars : List Char) : trimChars chars <+: dropBlanks chars :=
  List.rdropWhile_prefix isBlank (dropBlanks chars)

theorem trimChars_eq_self {chars : List Char} (first : ∀ c ∈ chars.head?, isBlank c = false)
    (last : ∀ c ∈ chars.getLast?, isBlank c = false) : trimChars chars = chars := by
  have lastFirst : ∀ c ∈ chars.reverse.head?, isBlank c = false := by
    rwa [List.head?_reverse]
  rw [trimChars, dropBlanks_eq_self first, dropBlanks_eq_self lastFirst, List.reverse_reverse]

/-- A text without blanks has none to be trimmed. -/
theorem trimChars_of_noBlank {chars : List Char} (noBlank : ∀ c ∈ chars, isBlank c = false) :
    trimChars chars = chars :=
  trimChars_eq_self (fun c first => noBlank c (List.mem_of_mem_head? first))
    fun c last => noBlank c (List.mem_of_mem_getLast? last)

/-- A trimmed text does not begin with a blank. -/
theorem startsBlank_trim (text : String) : startsBlank (trim text) = false := by
  rw [startsBlank_eq_false_iff, trim, String.toList_ofList]
  intro c first
  have firstKept : (dropBlanks text.toList).head? = some c :=
    mem_head?_of_begins (trimChars_begins text.toList) first
  exact notBlank_of_mem_head?_dropBlanks firstKept

end SecretRefs.Text
