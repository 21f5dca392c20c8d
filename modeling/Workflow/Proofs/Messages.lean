import Mathlib.Algebra.Order.Floor.Ring
import Mathlib.Data.Rat.Floor
import Mathlib.Tactic.Linarith
import Mathlib.Tactic.NormNum
import Workflow.Message

/-!
# Lengths of time in messages

Messages show a length of time in whole seconds, or in minutes and the seconds left over.  The
minutes are split off before what remains is rounded, so in the last half second of a minute
the rounding reaches a full minute that is carried over no more: the text then says sixty
seconds.  At all other times it is the one text for the nearest second.

## Main Definitions

* `Elapsed.Nearest` — the whole second that is nearest to a number of milliseconds.
* `Elapsed.Shown` — the text that shows a number of seconds.

## Main Statements

* `Elapsed.floor_eq_roundedSeconds` — seconds that are divided and rounded in doubles are the same.
* `Elapsed.Shown.unique` — a number of seconds is shown by one text only.
* `Elapsed.shown_or_uncarried` — what is shown of any number of milliseconds.
* `Elapsed.last_half_second_uncarried` — one second, shown in two ways.
-/

namespace Workflow.Elapsed

open Decimal

/-! ### The nearest second -/

/-- The whole second nearest to a number of milliseconds; of two, the later. -/
def Nearest (millis seconds : Nat) : Prop :=
  1000 * seconds ≤ millis + 500 ∧ millis < 1000 * seconds + 500

theorem nearest_roundedSeconds (millis : Nat) : Nearest millis (roundedSeconds millis) := by
  unfold Nearest roundedSeconds
  omega

/-- Whole minutes take no part in the rounding. -/
theorem roundedSeconds_eq (millis : Nat) :
    roundedSeconds millis = 60 * (millis / 60000) + roundedSeconds (millis % 60000) := by
  unfold roundedSeconds
  omega

/-- What is left of a minute is rounded up to all of it in the last half second. -/
theorem roundedSeconds_mod_eq_iff (millis : Nat) :
    roundedSeconds (millis % 60000) = 60 ↔ 59500 ≤ millis % 60000 := by
  unfold roundedSeconds
  omega

theorem roundedSeconds_mod_le (millis : Nat) : roundedSeconds (millis % 60000) ≤ 60 := by
  unfold roundedSeconds
  omega

/-- **Seconds that are divided in doubles are the same.**  Rounding to doubles keeps the order, and
up to 64 it leaves the multiples of `2 ^ -10` as they are; whatever rounding does so, the second
nearest to the rounded quotient is the one nearest to the milliseconds. -/
theorem floor_eq_roundedSeconds {double : ℚ → ℚ} (ordered : Monotone double)
    (exact : ∀ k : ℤ, |k| ≤ 65536 → double (k / 1024) = k / 1024) {millis : Nat}
    (short : millis < 60000) :
    ⌊double (millis / 1000) + 1 / 2⌋ = (roundedSeconds millis : ℤ) := by
  obtain ⟨low, high⟩ := nearest_roundedSeconds millis
  have few : roundedSeconds millis ≤ 60 := by
    unfold roundedSeconds
    omega
  generalize roundedSeconds millis = seconds at low high few
  -- the quotient lies between half a second before and a little less than half a second after
  have below : ((1024 * seconds - 512 : ℤ) : ℚ) / 1024 ≤ millis / 1000 := by
    have low' : (1000 * seconds : ℚ) ≤ millis + 500 := by exact_mod_cast low
    push_cast
    linarith
  have above : (millis : ℚ) / 1000 ≤ ((1024 * seconds + 511 : ℤ) : ℚ) / 1024 := by
    have high' : (millis + 1 : ℚ) ≤ 1000 * seconds + 500 := by exact_mod_cast high
    push_cast
    linarith
  have below' := ordered below
  have above' := ordered above
  rw [exact _ (abs_le.mpr (by omega))] at below' above'
  push_cast at below' above'
  rw [Int.floor_eq_iff]
  push_cast
  constructor <;> linarith

/-! ### Texts -/

/-- The text that shows a number of seconds: the seconds alone below a minute, else the minutes with
the seconds left over, of which nothing is said when there are none. -/
inductive Shown : Nat → String → Prop
  /-- Less than a minute. -/
  | seconds {seconds : Nat} (short : seconds < 60) : Shown seconds (showNat seconds ++ "s")
  /-- Whole minutes. -/
  | minutes {minutes : Nat} (some : 0 < minutes) : Shown (60 * minutes) (showNat minutes ++ "m")
  /-- Minutes and seconds. -/
  | both {minutes seconds : Nat} (some : 0 < minutes) (more : 0 < seconds) (short : seconds < 60) :
      Shown (60 * minutes + seconds) (showNat minutes ++ "m " ++ showNat seconds ++ "s")

theorem Shown.text_eq {seconds : Nat} {text : String} (shown : Shown seconds text) :
    text =
      if seconds < 60 then showNat seconds ++ "s"
      else if seconds % 60 = 0 then showNat (seconds / 60) ++ "m"
      else showNat (seconds / 60) ++ "m " ++ showNat (seconds % 60) ++ "s" := by
  cases shown with
  | seconds short => rw [if_pos short]
  | minutes some =>
      rw [if_neg (by omega), if_pos (Nat.mul_mod_right _ _), Nat.mul_div_cancel_left _ (by decide)]
  | @both minutes seconds some more short =>
      have whole : (60 * minutes + seconds) / 60 = minutes := by omega
      have left : (60 * minutes + seconds) % 60 = seconds := by omega
      rw [if_neg (by omega), whole, left, if_neg more.ne']

/-- A number of seconds is shown by one text only. -/
theorem Shown.unique {seconds : Nat} {text text' : String} (one : Shown seconds text)
    (other : Shown seconds text') : text = text' :=
  one.text_eq.trans other.text_eq.symm

/-- The last letter of a text. -/
theorem getLast?_append (text unit : String) (c : Char) (last : unit.toList.getLast? = some c) :
    (text ++ unit).toList.getLast? = some c := by
  rw [String.toList_append, List.getLast?_append, last]
  rfl

/-- No text that ends with seconds shows whole minutes. -/
theorem not_shown_append_s {minutes : Nat} (some : 0 < minutes) (text : String) :
    ¬Shown (60 * minutes) (text ++ "s") := by
  intro shown
  have seconds := getLast?_append text "s" 's' rfl
  rw [shown.unique (.minutes some), getLast?_append _ "m" 'm' rfl] at seconds
  cases seconds

/-! ### What messages show -/

section Render

variable {millis : Nat}

theorem renderDuration_of_lt (short : millis < 60000) :
    renderDuration millis = showNat (roundedSeconds (millis % 60000)) ++ "s" := by
  rw [renderDuration, if_pos short, Nat.mod_eq_of_lt short]

theorem renderDuration_of_le (long : 60000 ≤ millis) :
    renderDuration millis =
      if 0 < roundedSeconds (millis % 60000) then
        showNat (millis / 60000) ++ "m " ++ showNat (roundedSeconds (millis % 60000)) ++ "s"
      else showNat (millis / 60000) ++ "m" := by
  rw [renderDuration, if_neg (Nat.not_lt.mpr long)]

/-- Outside the last half second of a minute the nearest second is shown. -/
theorem shown_renderDuration (early : millis % 60000 < 59500) :
    Shown (roundedSeconds millis) (renderDuration millis) := by
  have short : roundedSeconds (millis % 60000) < 60 :=
    lt_of_le_of_ne (roundedSeconds_mod_le millis) fun full =>
      absurd ((roundedSeconds_mod_eq_iff millis).mp full) (Nat.not_le.mpr early)
  rw [roundedSeconds_eq]
  rcases Nat.lt_or_ge millis 60000 with below | long
  · rw [renderDuration_of_lt below, Nat.div_eq_of_lt below, Nat.mul_zero, Nat.zero_add]
    exact .seconds short
  · have some : 0 < millis / 60000 := Nat.div_pos long (by decide)
    rw [renderDuration_of_le long]
    split
    · next more => exact .both some more short
    · next none =>
        rw [Nat.eq_zero_of_not_pos none]
        exact .minutes some

/-- In it, sixty seconds are shown behind the minutes that are over. -/
theorem renderDuration_of_late (late : 59500 ≤ millis % 60000) :
    renderDuration millis =
      (if millis < 60000 then "" else showNat (millis / 60000) ++ "m ") ++ "60s" := by
  have full := (roundedSeconds_mod_eq_iff millis).mpr late
  rcases Nat.lt_or_ge millis 60000 with below | long
  · rw [renderDuration_of_lt below, if_pos below, full]
    rfl
  · rw [renderDuration_of_le long, if_neg (Nat.not_lt.mpr long), full, if_pos (by decide),
      String.append_assoc]
    rfl

end Render

/-- **What is shown of a length of time.**  Outside the last half second of a minute it is the one
text for the nearest second.  In the last half second the nearest second is the beginning of the
next minute, but the text still counts the minutes that are over and adds sixty seconds, so it is no
text for that second. -/
theorem shown_or_uncarried (millis : Nat) : ∃ seconds, Nearest millis seconds ∧
    (millis % 60000 < 59500 ∧ Shown seconds (renderDuration millis) ∨
      59500 ≤ millis % 60000 ∧ seconds = 60 * (millis / 60000 + 1) ∧
        renderDuration millis =
          (if millis < 60000 then "" else showNat (millis / 60000) ++ "m ") ++ "60s" ∧
        ¬Shown seconds (renderDuration millis)) := by
  refine ⟨roundedSeconds millis, nearest_roundedSeconds millis, ?_⟩
  rcases Nat.lt_or_ge (millis % 60000) 59500 with early | late
  · exact .inl ⟨early, shown_renderDuration early⟩
  · have carried : roundedSeconds millis = 60 * (millis / 60000 + 1) := by
      rw [roundedSeconds_eq, (roundedSeconds_mod_eq_iff millis).mpr late]
      omega
    refine .inr ⟨late, carried, renderDuration_of_late late, ?_⟩
    rw [carried, renderDuration_of_late late, show "60s" = "60" ++ "s" from rfl,
      ← String.append_assoc]
    exact not_shown_append_s (Nat.succ_pos _) _

/-- Half a second before two minutes the nearest second is the one of two minutes, and it is shown
in another way. -/
theorem last_half_second_uncarried :
    Nearest 119500 120 ∧ Nearest 120000 120 ∧ renderDuration 120000 = "2m" ∧ Shown 120 "2m" ∧
      renderDuration 119500 = "1m 60s" ∧ ¬Shown 120 "1m 60s" := by
  have shown : Shown (60 * 2) "2m" := .minutes (by decide)
  have wrong : ¬Shown (60 * 2) ("1m 60" ++ "s") := not_shown_append_s (by decide) "1m 60"
  exact ⟨⟨by decide, by decide⟩, ⟨by decide, by decide⟩, by decide, shown, by decide, wrong⟩

end Workflow.Elapsed
