/-!
# Status marks

The marks in front of messages: a coloured sign on a terminal, a word in
brackets elsewhere.
-/

namespace SecretRefs.Command

/-- A text in a colour of the terminal, given by its code. -/
def coloured (code text : String) : String :=
  "\x1b[" ++ code ++ "m" ++ text ++ "\x1b[0m"

/-- The mark of success. -/
def successMark (colour : Bool) : String :=
  if colour then coloured "32" "✓" else "[OK]"

/-- The mark of failure. -/
def failureMark (colour : Bool) : String :=
  if colour then coloured "31" "✗" else "[FAIL]"

end SecretRefs.Command
