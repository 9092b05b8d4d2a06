import SecretRefs.Text.Case

/-!
# Titles up to case

Titles that are equal ignoring case pick the same things out of every list, and titles
that are not never pick the same thing.
-/

namespace SecretRefs.Text

theorem sameTitle_iff {left right : String} :
    sameTitle left right = true ↔ lower left = lower right := by
  simp [sameTitle]

@[simp] theorem sameTitle_self (title : String) : sameTitle title title = true :=
  sameTitle_iff.mpr rfl

/-- Titles that are equal ignoring case match the same titles. -/
theorem sameTitle_congr {left right : String} (same : sameTitle left right = true)
    (title : String) : sameTitle title left = sameTitle title right := by
  simp [sameTitle, sameTitle_iff.mp same]

/-- No title matches two that differ. -/
theorem sameTitle_eq_false {left right title : String} (differ : sameTitle left right = false)
    (matched : sameTitle title left = true) : sameTitle title right = false := by
  rw [← Bool.not_eq_true, sameTitle_iff] at differ ⊢
  rwa [sameTitle_iff.mp matched]

end SecretRefs.Text
