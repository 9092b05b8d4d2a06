/-!
# Suggestions

The known key that a mistyped one resembles most. Two words are alike by the
characters that they share at nearly the same places, by how many of those are
in another order, and by the length of a common beginning; this is the measure
of Jaro and Winkler.
-/

namespace SecretRefs.Settings.Suggestion

/-- A character of a word, and whether a character of the other word is paired
with it. -/
structure Slot where
  char : Char
  taken : Bool
deriving Repr, DecidableEq

/-- Takes the first free slot with a character, from place `low` up to but not
including place `high`. -/
def takeSlot? (c : Char) : Nat → Nat → List Slot → Option (List Slot)
  | _, 0, _ => none
  | _, _, [] => none
  | 0, high + 1, slot :: rest =>
    if !slot.taken && slot.char == c then
      some ({ slot with taken := true } :: rest)
    else
      (takeSlot? c 0 high rest).map (slot :: ·)
  | low + 1, high + 1, slot :: rest => (takeSlot? c low high rest).map (slot :: ·)

/-- Pairs characters, of which the first is at place `index`, with slots that are
at most `reach` places away. The result has the paired characters in order, and
the slots. -/
def pairUp (reach : Nat) : Nat → List Char → List Slot → List Char × List Slot
  | _, [], slots => ([], slots)
  | index, c :: rest, slots =>
    match takeSlot? c (index - reach) (index + reach + 1) slots with
    | some slots =>
      let (paired, slots) := pairUp reach (index + 1) rest slots
      (c :: paired, slots)
    | none => pairUp reach (index + 1) rest slots

/-- How alike two words are by their shared characters, from 0 to 1. -/
def sharedScore (first second : List Char) : Float :=
  if first.isEmpty && second.isEmpty then
    1.0
  else if first.isEmpty || second.isEmpty then
    0.0
  else
    let reach := max first.length second.length / 2 - 1
    let (paired, slots) := pairUp reach 0 first (second.map fun c => ⟨c, false⟩)
    let others := (slots.filter Slot.taken).map Slot.char
    let count := paired.length
    if count == 0 then
      0.0
    else
      let moved := ((paired.zip others).filter fun (one, other) => one != other).length / 2
      (count.toFloat / first.length.toFloat + count.toFloat / second.length.toFloat +
        (count - moved).toFloat / count.toFloat) / 3.0

/-- The length of the common beginning of two words. -/
def commonLength : List Char → List Char → Nat
  | one :: rest, other :: rest' => if one == other then commonLength rest rest' + 1 else 0
  | _, _ => 0

/-- The score from which on a common beginning counts. -/
def beginningThreshold : Float := 0.7

/-- How many characters of a common beginning count. -/
def beginningLimit : Nat := 4

/-- How alike two words are, from 0 to 1. -/
def score (first second : String) : Float :=
  let shared := sharedScore first.toList second.toList
  if beginningThreshold < shared then
    let beginning := min beginningLimit (commonLength first.toList second.toList)
    shared + 0.1 * beginning.toFloat * (1.0 - shared)
  else
    shared

/-- The score that a suggestion must exceed. -/
def threshold : Float := 0.75

/-- The best of the keys that are like enough to a word, the last of them if
several are equally good. -/
def best? (word : String) (keys : List String) : Option String :=
  let choose (best : Option (Float × String)) (key : String) : Option (Float × String) :=
    let score := score word key
    if threshold < score then
      match best with
      | some (top, _) => if score < top then best else some (score, key)
      | none => some (score, key)
    else
      best
  (keys.foldl choose none).map Prod.snd

end SecretRefs.Settings.Suggestion
