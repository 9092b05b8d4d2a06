import SecretRefs.Settings.Environment.Value
import SecretRefs.Settings.Refusal
import SecretRefs.Text.Blank
import SecretRefs.Text.Occurrence

/-!
# Settings in environment variables

A variable sets the key that its name spells behind the common beginning. The
name of a section ends at its first underscore, so the other underscores belong
to the key; a dot divides a key further. Upper and lower case make no difference.
-/

namespace SecretRefs.Settings.Environment

/-- The names of sections as a variable spells them. -/
def sectionNames : List String := ["store", "defaults", "logging"]

/-- A key with the underscore behind the first occurrence of each section name
replaced by a dot. -/
def divide (key : List Char) : List Char :=
  sectionNames.foldl
    (fun key name => Text.replaceFirst (name.toList ++ ['_']) (name.toList ++ ['.']) key) key

/-- The key that the name of a variable spells, by its parts. There is none if the
name does not start as it has to, or if a part is empty. -/
def keyOfName? (name : String) : Option (List String) :=
  let name := (Text.trimChars name.toList).map Char.toLower
  match ((Text.asciiLower namePrefix).toList).isPrefixOf? name with
  | none => none
  | some key =>
    let parts := Text.parts (· == '.') (Text.trimChars (divide key))
    if parts.any List.isEmpty then none else some (parts.map String.ofList)

/-- What one variable sets, if anything. -/
def ofVariable? : String × String → Option Value
  | (name, text) =>
    (keyOfName? name).map fun path => Value.nested .environment path (valueOfText text)

/-- What variables set. A later one holds over an earlier one. -/
def ofVariables (pairs : List (String × String)) : Value :=
  (pairs.filterMap ofVariable?).foldl (fun lower upper => Value.cover upper lower)
    (.table .environment [])

end SecretRefs.Settings.Environment
