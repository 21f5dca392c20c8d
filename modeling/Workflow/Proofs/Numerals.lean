import Workflow.Duration

/-!
# Numerals are read back

Whole numbers and durations are words of 64 bits, and there is one canonical literal for
each.  The reader of literals takes more than those, with checks at every step; on what the
writer writes all of these checks pass, also at both ends of the range, and the word comes
back.

## Main Statements

* `Decimal.toList_showInt` — the canonical literal is a sign and digits.
* `Decimal.readInt64?_showInt` — words are read back from their literals.
* `Duration.read?_write` — so are durations.
-/

namespace Workflow

namespace Decimal

/-! ### Whole numbers -/

theorem isDigit_of_mem_toDigits (n : Nat) : ∀ d ∈ Nat.toDigits 10 n, d.isDigit = true :=
  fun _ mem => Nat.isDigit_of_mem_toDigits (by decide) (by decide) mem

theorem readNat?_toDigits (n : Nat) : readNat? (Nat.toDigits 10 n) = some n := by
  rw [readNat?, if_pos ⟨Nat.toDigits_ne_nil, List.all_eq_true.mpr (isDigit_of_mem_toDigits n)⟩]
  exact congrArg some Nat.ofDigitChars_ten_toDigits

/-- Every word fits a word. -/
theorem int64?_toInt (w : Int64) : int64? w.toInt = some w := by
  rw [int64?, if_pos ⟨w.minValue_le_toInt, w.toInt_le⟩, Int64.ofInt_toInt]

/-- The word that holds a number is the one with that value. -/
theorem int64?_eq_some_iff {n : Int} {w : Int64} : int64? n = some w ↔ w.toInt = n := by
  constructor
  · intro held
    unfold int64? at held
    split at held
    · next fits =>
        cases held
        exact Int64.toInt_ofInt_of_le fits.1 (Int.lt_add_one_of_le fits.2)
    · cases held
  · rintro rfl
    exact int64?_toInt w

/-- The canonical literal of a number is a sign, if it is below zero, and the digits of its
amount. -/
theorem toList_showInt (n : Int) :
    (showInt n).toList = (if n < 0 then ['-'] else []) ++ Nat.toDigits 10 n.natAbs := by
  unfold showInt showNat
  split
  · simp [String.toList_append]
  · simp

/-- The canonical literal of a number is a sign or none, and digits. -/
theorem exists_sign_digits (n : Int) : ∃ sign digits, (showInt n).toList = sign ++ digits ∧
    (sign = [] ∨ sign = ['-']) ∧ digits ≠ [] ∧ ∀ d ∈ digits, d.isDigit = true := by
  refine ⟨_, _, toList_showInt n, ?_, Nat.toDigits_ne_nil, isDigit_of_mem_toDigits _⟩
  split
  · exact .inr rfl
  · exact .inl rfl

/-- Digits without a sign are read as they stand. -/
theorem readInt64?_of_isDigit {ds : List Char} (digits : ∀ d ∈ ds, d.isDigit = true) :
    readInt64? ds = (readNat? ds).bind fun n => int64? n := by
  unfold readInt64?
  split
  · exact absurd (digits '-' List.mem_cons_self) (by decide)
  · exact absurd (digits '+' List.mem_cons_self) (by decide)
  · rfl

/-- **Words are read back from their literals.** -/
theorem readInt64?_showInt (w : Int64) : readInt64? (showInt w.toInt).toList = some w := by
  rw [toList_showInt]
  split
  · next negative =>
      have amount : -((w.toInt.natAbs : Nat) : Int) = w.toInt := by omega
      rw [List.singleton_append, readInt64?, readNat?_toDigits, Option.bind_some, amount,
        int64?_toInt]
  · next positive =>
      have amount : ((w.toInt.natAbs : Nat) : Int) = w.toInt := by omega
      rw [List.nil_append, readInt64?_of_isDigit (isDigit_of_mem_toDigits _), readNat?_toDigits,
        Option.bind_some, amount, int64?_toInt]

end Decimal

/-! ### Runs of characters -/

namespace Text

variable {p : Char → Bool} {front rest cs : List Char}

theorem takeWhile_of_ends (ends : ∀ c ∈ rest.head?, p c = false) : rest.takeWhile p = [] := by
  cases rest with
  | nil => rfl
  | cons c rest => exact List.takeWhile_cons_of_neg (by simp [ends c rfl])

theorem dropWhile_of_ends (ends : ∀ c ∈ rest.head?, p c = false) : rest.dropWhile p = rest := by
  cases rest with
  | nil => rfl
  | cons c rest => exact List.dropWhile_cons_of_neg (by simp [ends c rfl])

/-- A run of characters ends where the first other character stands. -/
theorem takeWhile_append_of_ends (run : ∀ c ∈ front, p c = true)
    (ends : ∀ c ∈ rest.head?, p c = false) : (front ++ rest).takeWhile p = front := by
  rw [List.takeWhile_append_of_pos run, takeWhile_of_ends ends, List.append_nil]

theorem dropWhile_append_of_ends (run : ∀ c ∈ front, p c = true)
    (ends : ∀ c ∈ rest.head?, p c = false) : (front ++ rest).dropWhile p = rest := by
  rw [List.dropWhile_append_of_pos run, dropWhile_of_ends ends]

/-- What stands behind such a character has no part in it. -/
theorem takeWhile_append_left (ends : ∀ c ∈ rest.head?, p c = false) (cs : List Char) :
    (cs ++ rest).takeWhile p = cs.takeWhile p := by
  induction cs with
  | nil => exact takeWhile_of_ends ends
  | cons c cs ih => rw [List.cons_append, List.takeWhile_cons, List.takeWhile_cons, ih]

theorem dropWhile_append_left (ends : ∀ c ∈ rest.head?, p c = false) (cs : List Char) :
    (cs ++ rest).dropWhile p = cs.dropWhile p ++ rest := by
  induction cs with
  | nil => exact dropWhile_of_ends ends
  | cons c cs ih =>
      rw [List.cons_append, List.dropWhile_cons, List.dropWhile_cons, ih]
      split <;> rfl

/-- No digit is blank. -/
theorem isBlank_of_isDigit {c : Char} (digit : c.isDigit = true) : isBlank c = false := by
  simp only [Char.isDigit, Bool.and_eq_true, decide_eq_true_eq] at digit
  have low : 48 ≤ c.toNat := UInt32.le_iff_toNat_le.mp digit.1
  have high : c.toNat ≤ 57 := UInt32.le_iff_toNat_le.mp digit.2
  simp only [isBlank, Bool.or_eq_false_iff, Bool.and_eq_false_imp, decide_eq_true_eq,
    decide_eq_false_iff_not, beq_eq_false_iff_ne]
  omega

theorem trimStart_of_solid (front : ∀ c ∈ cs.head?, isBlank c = false) : trimStart cs = cs :=
  dropWhile_of_ends front

/-- A text without blanks at its ends is not trimmed. -/
theorem trim_of_solid (front : ∀ c ∈ cs.head?, isBlank c = false)
    (back : ∀ c ∈ cs.getLast?, isBlank c = false) : trim cs = cs := by
  rw [trim, trimStart_of_solid front, trimEnd,
    trimStart_of_solid (by rwa [List.head?_reverse]), List.reverse_reverse]

end Text

/-! ### Durations -/

namespace Duration

/-- The unit of a literal begins behind its digits and a gap. -/
theorem parts?_append {sign digits gap unit : List Char} (signed : sign = [] ∨ sign = ['-'])
    (nonempty : digits ≠ []) (whole : ∀ d ∈ digits, d.isDigit = true)
    (apart : ∀ c ∈ gap, isGap c = true) (noDigit : ∀ c ∈ (gap ++ unit).head?, c.isDigit = false)
    (noGap : ∀ c ∈ unit.head?, isGap c = false) :
    parts? (sign ++ (digits ++ (gap ++ unit))) =
      (Decimal.readInt64? (sign ++ digits)).map fun n => (n, String.ofList unit) := by
  have split : digitsAndRest (digits ++ (gap ++ unit)) = (digits, gap ++ unit) :=
    Prod.ext (Text.takeWhile_append_of_ends whole noDigit)
      (Text.dropWhile_append_of_ends whole noDigit)
  have unitOnly : (gap ++ unit).dropWhile isGap = unit := Text.dropWhile_append_of_ends apart noGap
  rcases signed with rfl | rfl
  · -- a digit is no sign
    obtain ⟨d, ds, rfl⟩ := List.exists_cons_of_ne_nil nonempty
    have noDash : d ≠ '-' := by
      rintro rfl
      exact absurd (whole '-' List.mem_cons_self) (by decide)
    rw [List.cons_append] at split
    simp [parts?, noDash, split, unitOnly]
  · simp [parts?, split, unitOnly, nonempty]

/-- **Durations are read back from their literals.** -/
theorem read?_write (millis : Int64) : read? (write millis) = some millis := by
  obtain ⟨sign, digits, eq, signed, nonempty, whole⟩ := Decimal.exists_sign_digits millis.toInt
  have literal : (write millis).toList = sign ++ (digits ++ ['m', 's']) := by
    rw [write, String.toList_append, eq, List.append_assoc]
    rfl
  have front : ∀ c ∈ (sign ++ (digits ++ ['m', 's'])).head?, Text.isBlank c = false := by
    intro c first
    rcases signed with rfl | rfl
    · obtain ⟨d, ds, rfl⟩ := List.exists_cons_of_ne_nil nonempty
      cases first
      exact Text.isBlank_of_isDigit (whole _ List.mem_cons_self)
    · cases first
      rfl
  have back : ∀ c ∈ (sign ++ (digits ++ ['m', 's'])).getLast?, Text.isBlank c = false := by
    intro c last
    simp only [List.getLast?_append, List.getLast?_cons] at last
    cases last
    rfl
  have parts : parts? (sign ++ (digits ++ ['m', 's'])) = some (millis, "ms") := by
    have split : parts? (sign ++ (digits ++ ([] ++ ['m', 's']))) = _ :=
      parts?_append signed nonempty whole (List.forall_mem_nil _) (by simp) (by simp [isGap])
    rw [List.nil_append] at split
    rw [split, ← eq, Decimal.readInt64?_showInt]
    rfl
  have product : Decimal.int64? (millis.toInt * 1) = some millis := by
    rw [Int.mul_one, Decimal.int64?_toInt]
  rw [read?, literal, Text.trim_of_solid front back, parts]
  exact product

end Duration

end Workflow
