/-!
# Orders by keys

Domain types are ordered field by field.  A comparison by keys that finds no
difference has found equal keys.
-/

namespace UsageForecast

variable {α β : Type} [Ord β]

theorem key_eq [Std.LawfulEqOrd β]
    {key : α → β} {left right : α}
    (same : compareOn key left right = .eq) : key left = key right :=
  Std.LawfulEqCmp.eq_of_compare same

theorem key_eq_and_then [Std.LawfulEqOrd β]
    {key : α → β} {next : α → α → Ordering} {left right : α}
    (same : compareLex (compareOn key) next left right = .eq) :
    key left = key right ∧ next left right = .eq := by
  have both := Ordering.then_eq_eq.1 same
  exact ⟨key_eq both.1, both.2⟩

theorem lawfulEqCmp_of_key [Std.TransOrd β] [Std.LawfulEqOrd β]
    {key : α → β}
    (injective : ∀ left right, key left = key right → left = right) :
    Std.LawfulEqCmp (compareOn key) where
  eq_of_compare same := injective _ _ (key_eq same)

end UsageForecast
