import Mathlib

/-!
# The order of scores

Scores are floating-point numbers, which are ordered but for the value that is not a number.
`Score.rank` places a number among triples of integers in lexicographic order: first its class from
negative infinity to infinity, then its exponent and its mantissa. A number is at most another
exactly if neither is the exception and the ranks are so ordered (`Score.le_iff`), so that the order
is transitive (`Score.le_trans`) and total on numbers proper (`Score.le_total`), where "below" is
the strict part of it (`Score.lt_iff_not_le`). Zeros of either sign have one rank.
-/

set_option autoImplicit false
set_option relaxedAutoImplicit false

namespace RoutePatterns.Score

open Float.Model (UnpackedFloat)

/-- Where an unpacked number stands: its class, then its exponent and its mantissa. -/
def rankOf : UnpackedFloat → ℤ ×ₗ ℤ ×ₗ ℤ
  | .infinity .negative => toLex (-2, toLex (0, 0))
  | .finite .negative mantissa exponent _ => toLex (-1, toLex (-exponent, -(mantissa : ℤ)))
  | .notANumber | .zero _ => toLex (0, toLex (0, 0))
  | .finite .positive mantissa exponent _ => toLex (1, toLex (exponent, (mantissa : ℤ)))
  | .infinity .positive => toLex (2, toLex (0, 0))

variable {exponent exponent' : ℤ} {mantissa mantissa' : ℕ}

theorem isLE_compare_iff :
    ((compare exponent exponent').then (compare mantissa mantissa')).isLE = true ↔
      exponent < exponent' ∨ exponent = exponent' ∧ mantissa ≤ mantissa' := by
  rcases lt_trichotomy exponent exponent' with hlt | rfl | hlt
  · rw [Int.compare_eq_lt.mpr hlt]
    simp [hlt]
  · simp [Nat.isLE_compare]
  · rw [Int.compare_eq_gt.mpr hlt]
    simp
    omega

theorem isGE_compare_iff :
    ((compare exponent exponent').then (compare mantissa mantissa')).isGE = true ↔
      exponent' < exponent ∨ exponent = exponent' ∧ mantissa' ≤ mantissa := by
  rw [← Ordering.isLE_swap, Ordering.swap_then, Int.compare_swap, Nat.compare_swap,
    isLE_compare_iff, eq_comm]

theorem compare_eq_lt_iff :
    (compare exponent exponent').then (compare mantissa mantissa') = .lt ↔
      exponent < exponent' ∨ exponent = exponent' ∧ mantissa < mantissa' := by
  rcases lt_trichotomy exponent exponent' with hlt | rfl | hlt
  · rw [Int.compare_eq_lt.mpr hlt]
    simp [hlt]
  · simp [Nat.compare_eq_lt]
  · rw [Int.compare_eq_gt.mpr hlt]
    simp
    omega

theorem compare_eq_gt_iff :
    (compare exponent exponent').then (compare mantissa mantissa') = .gt ↔
      exponent' < exponent ∨ exponent = exponent' ∧ mantissa' < mantissa := by
  rw [← Ordering.swap_eq_lt, Ordering.swap_then, Int.compare_swap, Nat.compare_swap,
    compare_eq_lt_iff, eq_comm]

/-- Unpacked numbers proper are ordered as their ranks. -/
theorem unpacked_le_iff {first second : UnpackedFloat} :
    first.le second = true ↔
      first.isNaN = false ∧ second.isNaN = false ∧ rankOf first ≤ rankOf second := by
  rcases first with (_ | _) | _ | _ | ⟨_ | _, mantissa, exponent, _⟩ <;>
    rcases second with (_ | _) | _ | _ | ⟨_ | _, mantissa', exponent', _⟩ <;>
    simp [UnpackedFloat.le, UnpackedFloat.compare, UnpackedFloat.isNaN, rankOf, Prod.Lex.le_iff,
      isLE_compare_iff, isGE_compare_iff]
  all_goals rfl

/-- An unpacked number proper is below another exactly if its rank is. -/
theorem unpacked_lt_iff {first second : UnpackedFloat} :
    first.lt second = true ↔
      first.isNaN = false ∧ second.isNaN = false ∧ rankOf first < rankOf second := by
  rcases first with (_ | _) | _ | _ | ⟨_ | _, mantissa, exponent, _⟩ <;>
    rcases second with (_ | _) | _ | _ | ⟨_ | _, mantissa', exponent', _⟩ <;>
    simp [UnpackedFloat.lt, UnpackedFloat.compare, UnpackedFloat.isNaN, rankOf, Prod.Lex.lt_iff,
      compare_eq_lt_iff, compare_eq_gt_iff]
  all_goals rfl

/-- Unpacked numbers proper are equal if their ranks are. -/
theorem unpacked_beq_iff {first second : UnpackedFloat} :
    first.beq second = true ↔
      first.isNaN = false ∧ second.isNaN = false ∧ rankOf first = rankOf second := by
  rcases first with (_ | _) | _ | _ | ⟨_ | _, mantissa, exponent, _⟩ <;>
    rcases second with (_ | _) | _ | _ | ⟨_ | _, mantissa', exponent', _⟩ <;>
    simp [UnpackedFloat.beq, UnpackedFloat.compare, UnpackedFloat.isNaN, rankOf]
  all_goals rfl

/-! ### Floating-point numbers -/

/-- Where a number stands. -/
def rank (number : Float) : ℤ ×ₗ ℤ ×ₗ ℤ :=
  rankOf number.toModel.unpack

variable {first second third : Float}

/-- Numbers proper are ordered as their ranks. -/
theorem le_iff : first ≤ second ↔
    first.isNaN = false ∧ second.isNaN = false ∧ rank first ≤ rank second :=
  decide_eq_true_iff.trans unpacked_le_iff

/-- A number is below another exactly if both are numbers proper and its rank is below. -/
theorem lt_iff : first < second ↔
    first.isNaN = false ∧ second.isNaN = false ∧ rank first < rank second :=
  decide_eq_true_iff.trans unpacked_lt_iff

/-- Of two numbers proper, the first is below the second exactly if the second is not at most the
first. -/
theorem lt_iff_not_le (hfirst : first.isNaN = false) (hsecond : second.isNaN = false) :
    first < second ↔ ¬second ≤ first := by
  rw [lt_iff, le_iff, and_iff_right hfirst, and_iff_right hsecond, and_iff_right hsecond,
    and_iff_right hfirst, not_le]

theorem beq_iff : (first == second) = true ↔
    first.isNaN = false ∧ second.isNaN = false ∧ rank first = rank second :=
  unpacked_beq_iff

theorem le_refl (hfirst : first.isNaN = false) : first ≤ first :=
  le_iff.mpr ⟨hfirst, hfirst, le_rfl⟩

theorem le_trans (hfirst : first ≤ second) (hsecond : second ≤ third) : first ≤ third := by
  obtain ⟨hfirst, -, hrank⟩ := le_iff.mp hfirst
  obtain ⟨-, hthird, hrank'⟩ := le_iff.mp hsecond
  exact le_iff.mpr ⟨hfirst, hthird, hrank.trans hrank'⟩

theorem le_total (hfirst : first.isNaN = false) (hsecond : second.isNaN = false) :
    first ≤ second ∨ second ≤ first := by
  rcases LinearOrder.le_total (rank first) (rank second) with hrank | hrank
  · exact Or.inl (le_iff.mpr ⟨hfirst, hsecond, hrank⟩)
  · exact Or.inr (le_iff.mpr ⟨hsecond, hfirst, hrank⟩)

theorem beq_of_le_of_le (h : first ≤ second) (h' : second ≤ first) : (first == second) = true := by
  obtain ⟨hfirst, hsecond, hrank⟩ := le_iff.mp h
  obtain ⟨-, -, hrank'⟩ := le_iff.mp h'
  exact beq_iff.mpr ⟨hfirst, hsecond, le_antisymm hrank hrank'⟩

end RoutePatterns.Score
