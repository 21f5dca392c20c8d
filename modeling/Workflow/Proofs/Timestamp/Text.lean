import Mathlib.Data.List.TakeWhile
import Workflow.Proofs.Numerals
import Workflow.Proofs.Timestamp.Calendar

/-!
# Moments are read back

A moment that the calendar knows is read back from its text, to the nanosecond and also
within an inserted second.  There is nothing else to read: whatever text is read as a moment,
the moment is one of those.

## Main Definitions

* `Timestamp.Proper` — the moments of the calendar.

## Main Statements

* `Timestamp.parse?_render` — proper moments are read back.
* `Timestamp.proper_of_parse?` — only proper moments are read.
-/

namespace Workflow.Timestamp

open Decimal (natOfDigits)

/-- A moment of the calendar.  A second lasts for two only when it is the last of its minute. -/
structure Proper (t : Timestamp) : Prop where
  first : Date.toDays ⟨firstYear, 1, 1⟩ ≤ t.day
  last : t.day ≤ Date.toDays ⟨lastYear, 12, 31⟩
  second : t.second < 86400
  nano : t.nano < 1000000000 ∨ t.second % 60 = 59 ∧ t.nano < 2000000000

/-! ### Padded numbers -/

theorem toList_padded (width n : Nat) : (padded width n).toList =
    List.replicate (width - (Nat.toDigits 10 n).length) '0' ++ Nat.toDigits 10 n := by
  rw [padded, String.toList_ofList]

theorem isDigit_padded (width n : Nat) : ∀ d ∈ (padded width n).toList, d.isDigit = true := by
  intro d mem
  rw [toList_padded, List.mem_append] at mem
  rcases mem with zero | digit
  · rw [List.eq_of_mem_replicate zero]
    rfl
  · exact Decimal.isDigit_of_mem_toDigits n d digit

/-- A padded number has a first digit. -/
theorem exists_padded_eq_cons (width n : Nat) :
    ∃ d ds, (padded width n).toList = d :: ds ∧ d.isDigit = true := by
  have nonempty : (padded width n).toList ≠ [] := by
    rw [toList_padded]
    exact List.append_ne_nil_of_right_ne_nil _ Nat.toDigits_ne_nil
  obtain ⟨d, ds, eq⟩ := List.exists_cons_of_ne_nil nonempty
  exact ⟨d, ds, eq, isDigit_padded width n d (eq ▸ List.mem_cons_self)⟩

theorem padded_ne_nil (width n : Nat) : (padded width n).toList ≠ [] := by
  obtain ⟨d, ds, eq, -⟩ := exists_padded_eq_cons width n
  rw [eq]
  exact List.cons_ne_nil d ds

/-- Zeros in front do not count. -/
theorem natOfDigits_padded (width n : Nat) : natOfDigits (padded width n).toList = n := by
  rw [toList_padded]
  change Nat.ofDigitChars 10 _ 0 = n
  rw [Nat.ofDigitChars_append, Nat.ofDigitChars_replicate_zero, Nat.mul_zero]
  exact Nat.ofDigitChars_ten_toDigits

theorem length_padded {width n : Nat} (wide : 0 < width) (small : n < 10 ^ width) :
    (padded width n).toList.length = width := by
  have digits := (Nat.length_toDigits_le_iff (b := 10) (by decide) wide).mpr small
  rw [toList_padded, List.length_append, List.length_replicate]
  omega

/-- What begins with a digit is not trimmed. -/
theorem trimStart_padded (width n : Nat) (rest : List Char) :
    Text.trimStart ((padded width n).toList ++ rest) = (padded width n).toList ++ rest := by
  obtain ⟨d, ds, eq, digit⟩ := exists_padded_eq_cons width n
  rw [eq, List.cons_append, Text.trimStart_cons_of_not_blank (Text.isBlank_of_isDigit digit)]

/-- **A padded number is read back**, whatever follows it. -/
theorem number?_padded {width n : Nat} (wide : 0 < width) (small : n < 10 ^ width)
    (rest : List Char) : number? width ((padded width n).toList ++ rest) = some (n, rest) := by
  have front : ((padded width n).toList ++ rest).take width = (padded width n).toList :=
    List.take_left' (length_padded wide small)
  have run : (padded width n).toList.takeWhile Char.isDigit = (padded width n).toList :=
    List.takeWhile_eq_self_iff.2 (isDigit_padded width n)
  rw [number?, trimStart_padded]
  simp only [front, run, natOfDigits_padded, if_neg (padded_ne_nil width n), List.drop_left]

/-! ### The parts of a text -/

/-- **Years are read back**, those of four digits and those with a sign. -/
theorem year?_renderYear {year : Int} {rest : List Char}
    (ends : ∀ c ∈ rest.head?, c.isDigit = false) :
    year? ((renderYear year).toList ++ rest) = some (year, rest) := by
  unfold renderYear
  split
  · next usual =>
      have read := @number?_padded 4 year.toNat (by decide) (by omega) rest
      obtain ⟨d, ds, eq, digit⟩ := exists_padded_eq_cons 4 year.toNat
      rw [year?, trimStart_padded]
      rw [eq, List.cons_append] at read ⊢
      split
      · next minus => exact absurd (List.cons.inj minus).1 (by rintro rfl; cases digit)
      · next plus => exact absurd (List.cons.inj plus).1 (by rintro rfl; cases digit)
      · rw [read]
        exact congrArg (fun y => some (y, rest)) (Int.toNat_of_nonneg usual.1)
  · next long =>
      have run := Text.takeWhile_append_of_ends (isDigit_padded 4 year.natAbs) ends
      by_cases negative : year < 0
      · have same : -1 * (year.natAbs : Int) = year := by omega
        have minus : "-".toList = ['-'] := rfl
        rw [if_pos negative, String.toList_append, minus, List.append_assoc,
          List.singleton_append, year?, Text.trimStart_cons_of_not_blank rfl]
        simp only [run, if_neg (padded_ne_nil _ _), natOfDigits_padded, same, List.drop_left]
      · have same : 1 * (year.natAbs : Int) = year := by omega
        have plus : "+".toList = ['+'] := rfl
        rw [if_neg negative, String.toList_append, plus, List.append_assoc,
          List.singleton_append, year?, Text.trimStart_cons_of_not_blank rfl]
        simp only [run, if_neg (padded_ne_nil _ _), natOfDigits_padded, same, List.drop_left]

/-- A padded number behind a mark. -/
theorem mark?_bind_number? {c : Char} (solid : Text.isBlank c = false) {width n : Nat}
    (wide : 0 < width) (small : n < 10 ^ width) (rest : List Char) :
    (mark? c (c :: ((padded width n).toList ++ rest))).bind (number? width) = some (n, rest) := by
  rw [mark?, Text.trimStart_cons_of_not_blank solid]
  exact (congrArg (Option.bind · (number? width)) (if_pos rfl)).trans
    (number?_padded wide small rest)

/-- A fraction of as many digits as it has places. -/
theorem fraction?_padded {width n : Nat} (wide : 0 < width) (places : width ≤ 9)
    (small : n < 10 ^ width) {rest : List Char} (ends : ∀ c ∈ rest.head?, c.isDigit = false) :
    fraction? ('.' :: ((padded width n).toList ++ rest)) =
      some (n * 10 ^ (9 - width), rest) := by
  have run := Text.takeWhile_append_of_ends (isDigit_padded width n) ends
  have length := length_padded wide small
  have leading : (padded width n).toList.take 9 = (padded width n).toList :=
    List.take_of_length_le (by omega)
  have behind : ((padded width n).toList ++ rest).drop width = rest := List.drop_left' length
  simp only [fraction?, run, if_neg (padded_ne_nil width n), leading, natOfDigits_padded, length,
    behind, Nat.pow_eq]

/-- **Fractions are read back.** -/
theorem fraction?_renderFraction {nano : Nat} (small : nano < 1000000000) {rest : List Char}
    (ends : ∀ c ∈ rest.head?, c.isDigit = false) (noPoint : ∀ c ∈ rest.head?, c ≠ '.') :
    fraction? ((renderFraction nano).toList ++ rest) = some (nano, rest) := by
  have places {width n : Nat} (wide : 0 < width) (places : width ≤ 9) (small : n < 10 ^ width)
      (exact : n * 10 ^ (9 - width) = nano) :
      fraction? (("." ++ padded width n).toList ++ rest) = some (nano, rest) := by
    rw [String.toList_append, ← exact]
    exact fraction?_padded wide places small ends
  unfold renderFraction
  split
  · next zero =>
      subst zero
      change fraction? rest = _
      unfold fraction?
      split
      · exact absurd rfl (noPoint '.' rfl)
      · rfl
  split
  · exact places (by decide) (by decide) (by omega) (by omega)
  split
  · exact places (by decide) (by decide) (by omega) (by omega)
  · exact places (by decide) (by decide) (by omega) (by omega)

/-! ### Two stages of reading -/

/-- The numbers in a text that is read as a moment, and the text behind them. -/
structure Parts where
  year : Int
  month : Nat
  day : Nat
  hour : Nat
  minute : Nat
  second : Nat
  fraction : Nat
  offset : Int
  rest : List Char

/-- The text behind the mark between a date and a time. -/
def separator? : List Char → Option (List Char)
  | c :: rest => if c = 'T' ∨ c = 't' ∨ c = ' ' then some rest else none
  | [] => none

/-- The numbers in a text. -/
def parts? (text : String) : Option Parts := do
  let (year, cs) ← year? text.toList
  let (month, cs) ← (mark? '-' cs).bind (number? 2)
  let (day, cs) ← (mark? '-' cs).bind (number? 2)
  let cs ← separator? cs
  let (hour, cs) ← number? 2 cs
  let (minute, cs) ← (mark? ':' cs).bind (number? 2)
  let (second, cs) ← (mark? ':' cs).bind (number? 2)
  let (fraction, cs) ← fraction? cs
  let (offset, cs) ← offset? cs
  return ⟨year, month, day, hour, minute, second, fraction, offset, cs⟩

/-- The seconds between the first of January 1970 and a time on a date. -/
def Parts.seconds (p : Parts) (date : Date) : Int :=
  date.toDays * 86400 + p.hour * 3600 + p.minute * 60 +
    (if p.second = 60 then 59 else p.second : Nat) - p.offset

/-- The moment that the numbers denote. -/
def Parts.moment? (p : Parts) : Option Timestamp :=
  (date? p.year p.month p.day).bind fun date =>
    if 23 < p.hour ∨ 59 < p.minute ∨ 60 < p.second ∨ Text.trimStart p.rest ≠ [] then none
    else if p.seconds date / 86400 < Date.toDays ⟨firstYear, 1, 1⟩ ∨
        Date.toDays ⟨lastYear, 12, 31⟩ < p.seconds date / 86400 then none
    else some ⟨p.seconds date / 86400, (p.seconds date % 86400).toNat,
      p.fraction + if p.second = 60 then 1000000000 else 0⟩

/-- Steps are taken in two stages. -/
theorem bind_eq_bind_bind {α β γ : Type} {x : Option α} {f : α → Option β} {g : β → Option γ}
    {h : α → Option γ} (each : ∀ a, h a = (f a).bind g) : (x >>= h) = (x >>= f).bind g := by
  cases x with
  | none => rfl
  | some a => exact each a

/-- **A text is read in two stages**, its numbers first. -/
theorem parse?_eq (text : String) : parse? text = (parts? text).bind Parts.moment? := by
  unfold parse? parts?
  refine bind_eq_bind_bind fun (year, cs) => ?_
  refine bind_eq_bind_bind fun (month, cs) => ?_
  refine bind_eq_bind_bind fun (day, cs) => ?_
  rcases cs with _ | ⟨c, cs⟩
  · rfl
  · dsimp only [separator?]
    by_cases mark : c = 'T' ∨ c = 't' ∨ c = ' '
    · rw [if_pos mark, if_pos mark]
      refine bind_eq_bind_bind fun cs => ?_
      refine bind_eq_bind_bind fun (hour, cs) => ?_
      refine bind_eq_bind_bind fun (minute, cs) => ?_
      refine bind_eq_bind_bind fun (second, cs) => ?_
      refine bind_eq_bind_bind fun (fraction, cs) => ?_
      refine bind_eq_bind_bind fun (offset, cs) => ?_
      refine congrArg _ (funext fun date => ?_)
      by_cases checks : 23 < hour ∨ 59 < minute ∨ 60 < second ∨ Text.trimStart cs ≠ []
      · rw [if_pos checks, if_pos checks]
        rfl
      · rw [if_neg checks, if_neg checks]
        by_cases last : second = 60
        · subst last
          rfl
        · simp only [Parts.seconds, if_neg last]
          rfl
    · rw [if_neg mark, if_neg mark]
      rfl

/-- The numbers denote a moment when there is such a date and such a time, and the moment is in the
calendar. -/
theorem Parts.moment?_eq_some_iff {p : Parts} {t : Timestamp} : p.moment? = some t ↔
    ∃ date, date? p.year p.month p.day = some date ∧
      (p.hour ≤ 23 ∧ p.minute ≤ 59 ∧ p.second ≤ 60 ∧ Text.trimStart p.rest = []) ∧
      (p.seconds date = t.day * 86400 + t.second ∧ t.second < 86400) ∧
      (Date.toDays ⟨firstYear, 1, 1⟩ ≤ t.day ∧ t.day ≤ Date.toDays ⟨lastYear, 12, 31⟩) ∧
      p.fraction + (if p.second = 60 then 1000000000 else 0) = t.nano := by
  rw [moment?, Option.bind_eq_some_iff]
  refine exists_congr fun date => and_congr_right fun _ => ?_
  constructor
  · intro found
    split at found
    · cases found
    next checks =>
      split at found
      · cases found
      next range =>
        obtain rfl := Option.some.inj found
        dsimp only
        exact ⟨by simpa using checks, by omega, by omega, rfl⟩
  · rintro ⟨checks, seconds, range, nano⟩
    have days : p.seconds date / 86400 = t.day := by omega
    have ofDay : (p.seconds date % 86400).toNat = t.second := by omega
    rw [if_neg (by simpa using checks), days, ofDay, nano, if_neg (by omega)]

/-! ### Whole texts -/

theorem daysInMonth_le (year : Int) (month : Nat) : daysInMonth year month ≤ 31 := by
  unfold daysInMonth
  split
  · split
    · decide
    · decide
  all_goals decide

theorem exists_of_date? {date : Date} {year : Int} {month day : Nat}
    (known : date? year month day = some date) :
    firstYear ≤ year ∧ year ≤ lastYear ∧ 1 ≤ month ∧ month ≤ 12 ∧ 1 ≤ day ∧
      day ≤ daysInMonth year month := by
  unfold date? at known
  split at known
  · assumption
  · cases known

/-- A spelling of universal time behind a moment. -/
structure Universal (zone : String) : Prop where
  offset : offset? zone.toList = some (0, [])
  noDigit : ∀ c ∈ zone.toList.head?, c.isDigit = false
  noPoint : ∀ c ∈ zone.toList.head?, c ≠ '.'

theorem universal_z : Universal "Z" := ⟨by decide, by simp, by simp⟩

variable {t : Timestamp}

/-- The text of a moment, part by part; an inserted second is the sixtieth of its minute. -/
theorem toList_renderWith (zone : String) {date : Date} (onDay : Date.ofDays t.day = date)
    {second nano : Nat}
    (shown : (if 1000000000 ≤ t.nano then (t.second % 60 + 1, t.nano - 1000000000)
      else (t.second % 60, t.nano)) = (second, nano)) :
    (t.renderWith zone).toList =
      (renderYear date.year).toList ++ '-' :: ((padded 2 date.month).toList ++
        '-' :: ((padded 2 date.day).toList ++ 'T' :: ((padded 2 (t.second / 3600)).toList ++
          ':' :: ((padded 2 (t.second / 60 % 60)).toList ++ ':' :: ((padded 2 second).toList ++
            ((renderFraction nano).toList ++ zone.toList)))))) := by
  have dash : "-".toList = ['-'] := rfl
  have time : "T".toList = ['T'] := rfl
  have colon : ":".toList = [':'] := rfl
  simp only [renderWith, onDay, shown, String.toList_append, List.append_assoc, dash, time, colon,
    List.cons_append, List.nil_append]

/-- What is shown of a moment is what the moment is read from. -/
theorem shown_second (proper : t.Proper) {second nano : Nat}
    (shown : (if 1000000000 ≤ t.nano then (t.second % 60 + 1, t.nano - 1000000000)
      else (t.second % 60, t.nano)) = (second, nano)) :
    nano < 1000000000 ∧ second ≤ 60 ∧ (if second = 60 then 59 else second) = t.second % 60 ∧
      nano + (if second = 60 then 1000000000 else 0) = t.nano := by
  have range := proper.nano
  split at shown
  · next inserted =>
      obtain ⟨rfl, rfl⟩ := Prod.mk.inj shown
      rw [if_pos (by omega), if_pos (by omega)]
      omega
  · next usual =>
      obtain ⟨rfl, rfl⟩ := Prod.mk.inj shown
      rw [if_neg (by omega), if_neg (by omega)]
      omega

/-- The numbers in the text of a moment. -/
theorem parts?_renderWith (proper : t.Proper) {zone : String} (universal : Universal zone)
    {date : Date} (onDay : Date.ofDays t.day = date) {second nano : Nat}
    (shown : (if 1000000000 ≤ t.nano then (t.second % 60 + 1, t.nano - 1000000000)
      else (t.second % 60, t.nano)) = (second, nano)) :
    parts? (t.renderWith zone) = some ⟨date.year, date.month, date.day, t.second / 3600,
      t.second / 60 % 60, second, nano, 0, []⟩ := by
  have known := date?_ofDays proper.first proper.last
  rw [onDay] at known
  obtain ⟨-, -, -, month, -, day⟩ := exists_of_date? known
  have longest := daysInMonth_le date.year date.month
  obtain ⟨short, minute, -, -⟩ := shown_second proper shown
  have small := proper.second
  have two {n : Nat} (bound : n < 100) := @number?_padded 2 n (by decide) bound
  have dash {n : Nat} (bound : n < 100) :=
    @mark?_bind_number? '-' rfl 2 n (by decide) bound
  have colon {n : Nat} (bound : n < 100) :=
    @mark?_bind_number? ':' rfl 2 n (by decide) bound
  have separated (cs : List Char) : separator? ('T' :: cs) = some cs := rfl
  rw [parts?, toList_renderWith zone onDay shown, year?_renderYear (by simp)]
  simp only [Option.bind_eq_bind, Option.bind_some, dash (show date.month < 100 by omega),
    dash (show date.day < 100 by omega), separated, two (show t.second / 3600 < 100 by omega),
    colon (show t.second / 60 % 60 < 100 by omega), colon (show second < 100 by omega),
    fraction?_renderFraction short universal.noDigit universal.noPoint, universal.offset]
  rfl

/-- **Moments are read back.** -/
theorem parse?_renderWith (proper : t.Proper) {zone : String} (universal : Universal zone) :
    parse? (t.renderWith zone) = some t := by
  obtain ⟨date, onDay⟩ : ∃ date, Date.ofDays t.day = date := ⟨_, rfl⟩
  obtain ⟨second, nano, shown⟩ : ∃ second nano,
      (if 1000000000 ≤ t.nano then (t.second % 60 + 1, t.nano - 1000000000)
        else (t.second % 60, t.nano)) = (second, nano) := ⟨_, _, rfl⟩
  have known := date?_ofDays proper.first proper.last
  have back := Date.toDays_ofDays t.day
  rw [onDay] at known back
  obtain ⟨-, minute, ofMinute, ofSecond⟩ := shown_second proper shown
  have small := proper.second
  rw [parse?_eq, parts?_renderWith proper universal onDay shown, Option.bind_some,
    Parts.moment?_eq_some_iff]
  refine ⟨date, known, ⟨?_, ?_, minute, rfl⟩, ⟨?_, small⟩, ⟨proper.first, proper.last⟩, ofSecond⟩
  · change t.second / 3600 ≤ 23
    omega
  · change t.second / 60 % 60 ≤ 59
    omega
  · rw [Parts.seconds, ofMinute, back]
    dsimp only
    omega

theorem parse?_render (proper : t.Proper) : parse? t.render = some t :=
  parse?_renderWith proper universal_z

/-! ### What is read -/

theorem digitValue_le {d : Char} (digit : d.isDigit = true) : Decimal.digitValue d ≤ 9 := by
  simp only [Char.isDigit, Bool.and_eq_true, decide_eq_true_eq] at digit
  have high : d.toNat ≤ 57 := UInt32.le_iff_toNat_le.mp digit.2
  have zero : '0'.toNat = 48 := rfl
  rw [Decimal.digitValue, zero]
  omega

theorem natOfDigits_lt {ds : List Char} (digits : ∀ d ∈ ds, d.isDigit = true) :
    natOfDigits ds < 10 ^ ds.length := by
  suffices bound : ∀ n, ds.foldl (fun n d => 10 * n + Decimal.digitValue d) n <
      (n + 1) * 10 ^ ds.length by
    have from_zero := bound 0
    rwa [Nat.zero_add, Nat.one_mul] at from_zero
  induction ds with
  | nil => simp
  | cons d ds ih =>
      intro n
      obtain ⟨digit, digits⟩ := List.forall_mem_cons.mp digits
      have value : Decimal.digitValue d ≤ 9 := digitValue_le digit
      calc ds.foldl (fun n d => 10 * n + Decimal.digitValue d) (10 * n + Decimal.digitValue d)
          < (10 * n + Decimal.digitValue d + 1) * 10 ^ ds.length := ih digits _
        _ ≤ (n + 1) * 10 * 10 ^ ds.length := Nat.mul_le_mul_right _ (by omega)
        _ = (n + 1) * 10 ^ (ds.length + 1) := by rw [Nat.mul_assoc, Nat.pow_succ']

theorem fraction?_lt {cs rest : List Char} {nano : Nat} (read : fraction? cs = some (nano, rest)) :
    nano < 1000000000 := by
  unfold fraction? at read
  split at read
  · next cs =>
      dsimp only at read
      split at read
      · cases read
      · obtain ⟨rfl, -⟩ := Prod.mk.inj (Option.some.inj read)
        have digits : ∀ d ∈ (cs.takeWhile Char.isDigit).take 9, d.isDigit = true :=
          fun d mem => List.mem_takeWhile_imp (List.mem_of_mem_take mem)
        have few : ((cs.takeWhile Char.isDigit).take 9).length ≤ 9 := List.length_take_le 9 _
        calc _ < 10 ^ ((cs.takeWhile Char.isDigit).take 9).length *
                10 ^ (9 - ((cs.takeWhile Char.isDigit).take 9).length) :=
              Nat.mul_lt_mul_of_pos_right (natOfDigits_lt digits) (Nat.pow_pos (by decide))
          _ = 1000000000 := by rw [← Nat.pow_add, Nat.add_sub_cancel' few]
  · obtain ⟨rfl, -⟩ := Prod.mk.inj (Option.some.inj read)
    decide

/-- Offsets are whole minutes. -/
theorem offset?_minutes {cs rest : List Char} {seconds : Int}
    (read : offset? cs = some (seconds, rest)) : seconds % 60 = 0 := by
  unfold offset? at read
  simp only [Option.bind_eq_bind, Option.pure_def] at read
  split at read
  · obtain ⟨rfl, -⟩ := Prod.mk.inj (Option.some.inj read)
    rfl
  split at read
  · cases read
  split at read
  · obtain ⟨rfl, -⟩ := Prod.mk.inj (Option.some.inj read)
    rfl
  split at read
  · simp only [Option.bind_eq_some_iff] at read
    obtain ⟨⟨hours, _⟩, -, ⟨minutes, _⟩, -, shown⟩ := read
    split at shown
    · cases shown
    · obtain ⟨eq, -⟩ := Prod.mk.inj (Option.some.inj shown)
      dsimp only at eq
      split at eq
      · omega
      · omega
  · cases read

theorem parts?_bounds {text : String} {p : Parts} (read : parts? text = some p) :
    p.fraction < 1000000000 ∧ p.offset % 60 = 0 := by
  simp only [parts?, Option.bind_eq_bind, Option.bind_eq_some_iff] at read
  obtain ⟨_, -, _, -, _, -, _, -, _, -, _, -, _, -, _, fraction, _, offset, eq⟩ := read
  obtain rfl := Option.some.inj eq
  exact ⟨fraction?_lt fraction, offset?_minutes offset⟩

/-- **Only proper moments are read.** -/
theorem proper_of_parse? {text : String} (read : parse? text = some t) : t.Proper := by
  rw [parse?_eq, Option.bind_eq_some_iff] at read
  obtain ⟨p, numbers, moment⟩ := read
  obtain ⟨fraction, offset⟩ := parts?_bounds numbers
  obtain ⟨date, -, ⟨-, -, short, -⟩, ⟨seconds, small⟩, ⟨first, last⟩, nano⟩ :=
    Parts.moment?_eq_some_iff.mp moment
  refine ⟨first, last, small, ?_⟩
  rw [Parts.seconds] at seconds
  by_cases inserted : p.second = 60
  · rw [if_pos inserted] at seconds nano
    omega
  · rw [if_neg inserted] at seconds nano
    omega

end Workflow.Timestamp
