import SecretRefs.Json.Record
import SecretRefs.Proofs.Text.Bytes

/-!
# Documents of bytes

The bytes of a text are the document that the text is (`Document.ofBytes?_toUTF8`). Other bytes
may be a document as well: one that is part of no character may stand in a string, which is
unreadable then and ends where it would end otherwise (`Parser.string?_append`).
-/

namespace SecretRefs.Json

open Text (Sign)

theorem Document.ofBytes?_toUTF8 (text : String) : ofBytes? text.toUTF8 = parse? text := by
  rw [ofBytes?, Text.signsOf_toUTF8, parse?]

theorem Reader.ofBytes?_toUTF8 {α : Type} (reader : Reader α) (text : String) :
    reader.ofBytes? text.toUTF8 = reader.ofText? text := by
  rw [ofBytes?, Document.ofBytes?_toUTF8, ofText?]

namespace Parser

/-- Whether a sign may stand in a string without an escape. -/
def IsPlain (sign : Sign) : Prop :=
  ∀ c, sign = some c → c ≠ '"' ∧ c ≠ '\\' ∧ 0x20 ≤ c.toNat

theorem stringUnits_append {signs rest : List Sign} (plain : ∀ sign ∈ signs, IsPlain sign)
    {fuel : Nat} (enough : signs.length < fuel) :
    stringUnits fuel (signs ++ some '"' :: rest) =
      some (signs.map (Option.map Char.toNat), rest) := by
  induction signs generalizing fuel with
  | nil =>
    obtain ⟨fuel, rfl⟩ := Nat.exists_eq_add_one_of_ne_zero (Nat.ne_of_gt enough)
    rfl
  | cons sign signs inductionHypothesis =>
    obtain ⟨fuel, rfl⟩ := Nat.exists_eq_add_one_of_ne_zero (Nat.ne_zero_of_lt enough)
    have others := inductionHypothesis
      (fun other member => plain other (List.mem_cons_of_mem sign member))
      (Nat.lt_of_succ_lt_succ enough)
    cases sign with
    | none =>
      rw [List.cons_append, stringUnits, others]
      rfl
    | some c =>
      obtain ⟨noQuote, noEscape, noControl⟩ := plain (some c) List.mem_cons_self c rfl
      rw [List.cons_append, stringUnits]
      · rw [others]
        simp [noEscape, Nat.not_lt.mpr noControl]
      all_goals simp [noQuote, noEscape]

/-- No character is half a surrogate pair. -/
theorem not_surrogate (c : Char) : isLeading c.toNat = false ∧ isTrailing c.toNat = false := by
  have valid : c.toNat < 0xD800 ∨ 0xDFFF < c.toNat ∧ c.toNat < 0x110000 := c.valid
  simp only [isLeading, isTrailing, Bool.and_eq_false_iff, decide_eq_false_iff_not]
  omega

theorem joinUnits?_map (signs : List Sign) :
    joinUnits? (signs.map (Option.map Char.toNat)) = signs.mapM id := by
  induction signs with
  | nil => rfl
  | cons sign signs inductionHypothesis =>
    cases sign with
    | none => rfl
    | some c =>
      obtain ⟨notLeading, notTrailing⟩ := not_surrogate c
      rw [List.map_cons, Option.map_some, joinUnits?.eq_def]
      simp only [notLeading, notTrailing, Bool.false_eq_true, if_false, inductionHypothesis]
      rw [Char.ofNat_toNat, List.mapM_cons]
      cases signs.mapM id with
      | none => rfl
      | some chars => rfl

/-- A string without escapes ends at the next quote. It is the text of its signs, or
unreadable if one of them is no character. -/
theorem string?_append {signs rest : List Sign} (plain : ∀ sign ∈ signs, IsPlain sign) :
    string? (signs ++ some '"' :: rest) = some ((signs.mapM id).map String.ofList, rest) := by
  have enough : signs.length < (signs ++ some '"' :: rest).length + 1 := by
    rw [List.length_append]
    omega
  rw [string?, stringUnits_append plain enough, Option.map_some, ← joinUnits?_map]

end Parser

/-- A stray byte is in nobody's way in an attribute that is skipped. -/
example :
    Document.ofBytes? ("\x7b\"id\":\"v\",\"x\":\"".toUTF8 ++ ⟨#[0xE9]⟩ ++ "\"\x7d".toUTF8) =
      some (.object [(some "id", .string (some "v")), (some "x", .string none)]) := by
  cbv

end SecretRefs.Json
