/-!
# Occurrences

Texts taken apart at what occurs in them: at every mark, or at the first occurrence of
a phrase.
-/

namespace SecretRefs.Text

/-- The parts of a text between its marks. There is one part more than marks. -/
def parts (isMark : Char → Bool) : List Char → List (List Char)
  | [] => [[]]
  | c :: rest =>
    if isMark c then
      [] :: parts isMark rest
    else
      match parts isMark rest with
      | [] => [[c]]
      | part :: others => (c :: part) :: others

/-- The text before the first occurrence of a phrase, and the text behind it. -/
def splitAround? (phrase : List Char) : List Char → Option (List Char × List Char)
  | [] => if phrase.isEmpty then some ([], []) else none
  | c :: rest =>
    match phrase.isPrefixOf? (c :: rest) with
    | some behind => some ([], behind)
    | none => (splitAround? phrase rest).map fun (before, behind) => (c :: before, behind)

/-- The text with the first occurrence of a phrase replaced. -/
def replaceFirst (phrase replacement text : List Char) : List Char :=
  match splitAround? phrase text with
  | some (before, behind) => before ++ replacement ++ behind
  | none => text

/-- The text in lower case, where only the letters of ASCII have a case. -/
def asciiLower (text : String) : String :=
  String.ofList (text.toList.map Char.toLower)

/-- The text in upper case, where only the letters of ASCII have a case. -/
def asciiUpper (text : String) : String :=
  String.ofList (text.toList.map Char.toUpper)

end SecretRefs.Text
