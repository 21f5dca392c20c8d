import Mathlib.Algebra.Group.Nat.Defs
import Mathlib.Order.MinMax
import Mathlib.Order.Nat
import Mathlib.Tactic.ByContra
import Workflow.Retry

/-!
# Waits that double

A policy of waits that double is stated as a formula: the base times a power of two, held to a
limit.  The power is kept in a word of 32 bits, and where it does not fit the greatest word
stands for it, for every later retry the same.  The product is held to the longest length of
time, which does no harm, since the limit is one itself.  So the formula holds as long as the
power fits, and beyond that only where the limit is reached by then; a small base with a large
limit stops short of it.

## Main Statements

* `Backoff.factor_eq_min` — the factor of a retry.
* `Backoff.ceiling_exponential` — the longest wait before a retry, in closed form.
* `Backoff.ceiling_eq_formula_iff` — for which retries this is the formula.
* `Backoff.follows_formula` — the waits of a policy, one by one and all together.
* `Backoff.small_base_stops_short` — a policy that does not reach its limit.
-/

namespace Workflow.Backoff

/-! ### The factor -/

/-- The greatest word of 32 bits. -/
def greatestFactor : Nat := 4294967295

section Factor

variable {attempt : Nat}

theorem factor_of_lt (fits : attempt < 32) : factor attempt = 2 ^ attempt := if_pos fits

theorem factor_of_le (large : 32 ≤ attempt) : factor attempt = greatestFactor :=
  if_neg (Nat.not_lt.mpr large)

/-- A power that does not fit is greater than all words. -/
theorem greatestFactor_lt_pow (large : 32 ≤ attempt) : greatestFactor < 2 ^ attempt :=
  Nat.lt_of_lt_of_le (by decide) (Nat.pow_le_pow_right (by decide : 0 < 2) large)

theorem pow_lt_greatestFactor (fits : attempt < 32) : 2 ^ attempt < greatestFactor :=
  Nat.lt_of_le_of_lt (Nat.pow_le_pow_right (by decide : 0 < 2) (Nat.le_of_lt_succ fits)) (by decide)

end Factor

/-- The factor is the power, held to the greatest word. -/
theorem factor_eq_min (attempt : Nat) : factor attempt = min (2 ^ attempt) greatestFactor := by
  rcases Nat.lt_or_ge attempt 32 with fits | large
  · rw [factor_of_lt fits, Nat.min_eq_left (pow_lt_greatestFactor fits).le]
  · rw [factor_of_le large, Nat.min_eq_right (greatestFactor_lt_pow large).le]

theorem factor_monotone : Monotone factor := by
  intro earlier later le
  rw [factor_eq_min, factor_eq_min]
  exact min_le_min_right _ (Nat.pow_le_pow_right (by decide) le)

/-! ### The longest wait -/

section Exponential

variable {base most : Nat}

/-- No wait is longer than the limit. -/
theorem ceiling_le (base most attempt : Nat) : ceiling (.exponential base most) attempt ≤ most := by
  unfold ceiling
  dsimp only
  split
  · exact min_le_right _ _
  · exact le_rfl

variable (duration : most ≤ forever)
include duration

/-- The product is held to the limit.  The longest length of time is no limit of its own. -/
theorem ceiling_exponential (attempt : Nat) :
    ceiling (.exponential base most) attempt = min (base * factor attempt) most := by
  unfold ceiling
  dsimp only
  split
  · rfl
  · next tooLong => exact (min_eq_right (duration.trans (Nat.lt_of_not_le tooLong).le)).symm

/-- No wait is shorter than the one before. -/
theorem ceiling_monotone : Monotone (ceiling (.exponential base most)) := by
  intro earlier later le
  rw [ceiling_exponential duration, ceiling_exponential duration]
  exact min_le_min_right _ (Nat.mul_le_mul_left base (factor_monotone le))

/-- **For which retries the formula holds**: as long as the power fits a word, and for all later
ones if the greatest word is enough to reach the limit, or if nothing is doubled. -/
theorem ceiling_eq_formula_iff (attempt : Nat) :
    ceiling (.exponential base most) attempt = min (base * 2 ^ attempt) most ↔
      attempt < 32 ∨ base = 0 ∨ most ≤ base * greatestFactor := by
  rw [ceiling_exponential duration]
  constructor
  · intro eq
    by_contra other
    simp only [not_or, Nat.not_lt, Nat.not_le] at other
    obtain ⟨large, some, room⟩ := other
    -- the product is below the limit, and below the one that is asked for
    have short : base * greatestFactor < base * 2 ^ attempt :=
      Nat.mul_lt_mul_of_pos_left (greatestFactor_lt_pow large) (Nat.pos_of_ne_zero some)
    rw [factor_of_le large, min_eq_left room.le] at eq
    exact absurd (lt_min short room) (eq ▸ lt_irrefl _)
  · rintro (fits | rfl | reached)
    · rw [factor_of_lt fits]
    · rw [Nat.zero_mul, Nat.zero_mul]
    · rcases Nat.lt_or_ge attempt 32 with fits | large
      · rw [factor_of_lt fits]
      · have more : base * greatestFactor ≤ base * 2 ^ attempt :=
          Nat.mul_le_mul_left base (greatestFactor_lt_pow large).le
        rw [factor_of_le large, min_eq_right reached, min_eq_right (reached.trans more)]

/-- **Waits that double.**  The longest wait before a retry is the base times the power of two, this
held to a word of 32 bits and the product to the limit.  Waits never become shorter and never pass
the limit.  A single wait follows the formula exactly if the power fits, nothing is doubled, or the
greatest word reaches the limit; all waits of a policy do exactly if one of the last two holds. -/
theorem follows_formula :
    (∀ attempt, ceiling (.exponential base most) attempt =
      min (base * min (2 ^ attempt) greatestFactor) most) ∧
    Monotone (ceiling (.exponential base most)) ∧
    (∀ attempt, ceiling (.exponential base most) attempt ≤ most) ∧
    (∀ attempt, ceiling (.exponential base most) attempt = min (base * 2 ^ attempt) most ↔
      attempt < 32 ∨ base = 0 ∨ most ≤ base * greatestFactor) ∧
    ((∀ attempt, ceiling (.exponential base most) attempt = min (base * 2 ^ attempt) most) ↔
      base = 0 ∨ most ≤ base * greatestFactor) := by
  refine ⟨fun attempt => ?closed, ceiling_monotone duration, ceiling_le base most,
    ceiling_eq_formula_iff duration, fun all => ?_, fun reached attempt => ?_⟩
  case closed => rw [ceiling_exponential duration, factor_eq_min]
  · exact ((ceiling_eq_formula_iff duration 32).mp (all 32)).resolve_left (lt_irrefl _)
  · exact (ceiling_eq_formula_iff duration attempt).mpr (.inr reached)

end Exponential

/-- The policy of runs that state none follows the formula for every retry. -/
theorem standard_follows_formula :
    60000 * millisecond ≤ forever ∧
      ∀ attempt, ceiling standard attempt =
        min (200 * millisecond * 2 ^ attempt) (60000 * millisecond) := by
  have duration : 60000 * millisecond ≤ forever := by decide
  obtain ⟨-, -, -, -, all⟩ := @follows_formula (200 * millisecond) (60000 * millisecond) duration
  exact ⟨duration, all.mpr (.inr (by decide))⟩

/-- A millisecond is doubled thirty-one times.  The formula doubles it once more and reaches the
limit, but the wait stops a millisecond short of it and stays there. -/
theorem small_base_stops_short :
    4294967296 * millisecond ≤ forever ∧
      min (millisecond * 2 ^ 32) (4294967296 * millisecond) = 4294967296 * millisecond ∧
      ceiling (.exponential millisecond (4294967296 * millisecond)) 32 =
        4294967295 * millisecond ∧
      ceiling (.exponential millisecond (4294967296 * millisecond)) 4294967295 =
        4294967295 * millisecond := by
  decide

end Workflow.Backoff
