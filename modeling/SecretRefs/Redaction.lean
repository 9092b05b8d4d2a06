/-!
# Redaction

How a secret is shown: texts of at most twelve characters are hidden, longer
ones show their first six and last four characters with the number of hidden
characters in between. Lengths are counted in characters.
-/

namespace SecretRefs.Redaction

/-- What stands for a secret that is hidden altogether. -/
def hidden : String := "[short value]"

/-- The greatest length of a secret that is hidden altogether. -/
def hiddenLimit : Nat := 12

/-- The number of characters shown at the start. -/
def headLength : Nat := 6

/-- The number of characters shown at the end. -/
def tailLength : Nat := 4

/-- The form in which a secret may be shown. -/
def redact (secret : String) : String :=
  let chars := secret.toList
  if chars.length ≤ hiddenLimit then
    hidden
  else
    let count := chars.length - headLength - tailLength
    String.ofList
      (chars.take headLength ++ "...[".toList ++ (toString count).toList ++ " chars]...".toList ++
        chars.drop (chars.length - tailLength))

end SecretRefs.Redaction
