import Workflow.Proofs.Json.Grammar
import Workflow.Proofs.Lexer.Pieces
import Workflow.Proofs.Numerals

/-!
# Strings and numbers in JSON are read as they are written

A string has marks at both ends, so its reader takes the same off a text whatever follows.
A number has none: its reader takes as much as can belong to it, so the number must be
followed by something that cannot.

## Main Definitions

* `Json.Reading.Takes` — a reader takes a value off the front of a text.
* `Json.Reading.Ends` — what may follow a number.

## Main Statements

* `Json.Reading.takes_string_iff` — a string is taken if and only if one is written there.
* `Json.Reading.written_of_literal?`, `Json.Reading.literal?_eq_some` — the same for
  numbers, where they end.
-/

namespace Workflow.Json

open Lexer (Digits digits_takeWhile)

namespace Reading

/-! ### Strings -/

theorem shortEscape?_eq_some_iff {e c : Char} : shortEscape? e = some c ↔ (e, c) ∈ escapes := by
  constructor
  · intro found
    unfold shortEscape? at found
    split at found
    all_goals
      cases found
      try decide
  · intro known
    simp only [escapes, List.mem_cons, Prod.mk.injEq, List.not_mem_nil, or_false] at known
    rcases known with ⟨rfl, rfl⟩ | ⟨rfl, rfl⟩ | ⟨rfl, rfl⟩ | ⟨rfl, rfl⟩ | ⟨rfl, rfl⟩ | ⟨rfl, rfl⟩ |
      ⟨rfl, rfl⟩ | ⟨rfl, rfl⟩
    all_goals rfl

/-- What is read between quotes is written there. -/
theorem body_of_units? {cs rest : List Char} {units : List Nat}
    (read : units? cs = some (units, rest)) :
    ∃ body, cs = body ++ '"' :: rest ∧ Body units body := by
  fun_induction units? cs generalizing units rest with
  | case1 => cases read
  | case2 cs =>
      cases read
      exact ⟨[], rfl, .nil⟩
  | case3 => cases read
  | case4 a b c d cs n known ih =>
      obtain ⟨pair, others, eq⟩ := Option.map_eq_some_iff.mp read
      cases eq
      obtain ⟨body, rfl, written⟩ := ih others
      exact ⟨_, rfl, .numeric known written⟩
  | case5 => cases read
  | case6 e cs noUnit c known ih =>
      obtain ⟨pair, others, eq⟩ := Option.map_eq_some_iff.mp read
      cases eq
      obtain ⟨body, rfl, written⟩ := ih others
      exact ⟨_, rfl, .escape (shortEscape?_eq_some_iff.mp known) written⟩
  | case7 => cases read
  | case8 c cs noQuote noNumeric noEscape visible ih =>
      obtain ⟨pair, others, eq⟩ := Option.map_eq_some_iff.mp read
      cases eq
      obtain ⟨body, rfl, written⟩ := ih others
      -- a backslash would be followed by something, and taken with it
      have noBackslash : c ≠ '\\' := by
        rintro rfl
        cases body with
        | nil => exact noEscape _ _ rfl rfl
        | cons d body => exact noEscape _ _ rfl rfl
      exact ⟨_, rfl, .plain (Nat.not_lt.mp visible) noQuote noBackslash written⟩

/-- **What is written between quotes is read.** -/
theorem units?_of_body {units : List Nat} {body : List Char} (written : Body units body)
    (rest : List Char) : units? (body ++ '"' :: rest) = some (units, rest) := by
  induction written with
  | nil => rfl
  | plain visible noQuote noBackslash others ih =>
      rw [List.cons_append, units?, if_neg (Nat.not_lt.mpr visible), ih]
      · rfl
      · exact noQuote
      · exact fun _ _ _ _ _ eq => absurd eq noBackslash
      · exact fun _ _ eq => absurd eq noBackslash
  | @escape e c units body known others ih =>
      have noUnit : e ≠ 'u' := by
        rintro rfl
        cases shortEscape?_eq_some_iff.mpr known
      rw [List.cons_append, List.cons_append, units?, shortEscape?_eq_some_iff.mpr known, ih]
      · rfl
      · exact fun _ _ _ _ _ eq => absurd eq noUnit
  | numeric known others ih =>
      simp only [List.cons_append, units?, known, ih]
      rfl

/-- A reader takes a value off the front of a text and leaves the rest. -/
def Takes {α : Type} (reader : Reader α) (cs : List Char) (x : α) (rest : List Char) : Prop :=
  ∃ r, reader cs = some r ∧ r.value = x ∧ r.rest = rest

/-- **A string is taken if and only if one is written there.** -/
theorem takes_string_iff {cs rest : List Char} {text : Option String} :
    Takes string cs text rest ↔ ∃ w, cs = w ++ rest ∧ Quoted text w := by
  constructor
  · rintro ⟨r, read, rfl, rfl⟩
    cases cs with
    | nil => cases read
    | cons c cs =>
        simp only [string] at read
        split at read
        · next quote =>
          split at read
          · cases read
          · next units rest found =>
            cases read
            obtain ⟨body, rfl, written⟩ := body_of_units? found
            exact ⟨'"' :: (body ++ ['"']), by simp [quote], units, body, written, rfl, rfl⟩
        · cases read
  · rintro ⟨w, rfl, units, body, written, rfl, rfl⟩
    have front : '"' :: (body ++ ['"']) ++ rest = '"' :: (body ++ '"' :: rest) := by simp
    rw [front, Takes, string, if_pos rfl]
    split
    · next none =>
      rw [units?_of_body written rest] at none
      cases none
    · next units' rest' found =>
      rw [units?_of_body written rest] at found
      cases found
      exact ⟨_, rfl, rfl, rfl⟩

/-! ### Numbers -/

/-- A number ends in front of such a text. -/
def Ends (rest : List Char) : Prop :=
  ∀ c ∈ rest.head?, c.isDigit = false ∧ c ≠ '.' ∧ c ≠ 'e' ∧ c ≠ 'E'

theorem fraction_of_fractionOf? {cs rest : List Char} {fraction : Option (List Char)}
    (read : fractionOf? cs = some (fraction, rest)) :
    ∃ w, cs = w ++ rest ∧ FractionText fraction w := by
  unfold fractionOf? at read
  split at read
  · next cs =>
    dsimp only at read
    split at read
    · cases read
    · next nonempty =>
      cases read
      refine ⟨'.' :: cs.takeWhile Char.isDigit, ?_,
        .some ((digits_takeWhile _).resolve_left nonempty)⟩
      rw [List.cons_append, List.takeWhile_append_dropWhile]
  · cases read
    exact ⟨[], rfl, .none⟩

theorem fractionOf?_eq_some {fraction : Option (List Char)} {w rest : List Char}
    (written : FractionText fraction w) (ends : ∀ c ∈ rest.head?, c.isDigit = false ∧ c ≠ '.') :
    fractionOf? (w ++ rest) = some (fraction, rest) := by
  have noDigit : ∀ c ∈ rest.head?, c.isDigit = false := fun c front => (ends c front).1
  cases written with
  | none =>
      rw [List.nil_append]
      unfold fractionOf?
      split
      · next cs => exact absurd rfl (ends '.' rfl).2
      · rfl
  | some digits =>
      simp only [List.cons_append, fractionOf?, Text.takeWhile_append_of_ends digits.2 noDigit,
        Text.dropWhile_append_of_ends digits.2 noDigit, if_neg digits.1]

theorem sign_of_signOf (cs : List Char) :
    ∃ sign, cs = sign ++ (Decimal.signOf cs).2 ∧
      ((Decimal.signOf cs).1, sign) ∈ [(false, []), (false, ['+']), (true, ['-'])] := by
  unfold Decimal.signOf
  split
  · exact ⟨['-'], rfl, by simp⟩
  · exact ⟨['+'], rfl, by simp⟩
  · exact ⟨[], rfl, by simp⟩

theorem signOf_append {negative : Bool} {sign ds rest : List Char}
    (signed : (negative, sign) ∈ [(false, []), (false, ['+']), (true, ['-'])])
    (digits : Digits ds) :
    Decimal.signOf (sign ++ (ds ++ rest)) = (negative, ds ++ rest) := by
  simp only [List.mem_cons, Prod.mk.injEq, List.not_mem_nil, or_false] at signed
  rcases signed with ⟨rfl, rfl⟩ | ⟨rfl, rfl⟩ | ⟨rfl, rfl⟩
  · -- a digit is no sign
    obtain ⟨d, ds, rfl⟩ := List.exists_cons_of_ne_nil digits.1
    have digit := digits.2 d List.mem_cons_self
    rw [List.nil_append, List.cons_append]
    unfold Decimal.signOf
    split
    · next eq =>
      cases eq
      exact absurd digit (by decide)
    · next eq =>
      cases eq
      exact absurd digit (by decide)
    · rfl
  · rfl
  · rfl

theorem exponent_of_exponentOf? {cs rest : List Char} {exponent : Option (Bool × List Char)}
    (read : exponentOf? cs = some (exponent, rest)) :
    ∃ w, cs = w ++ rest ∧ ExponentText exponent w := by
  cases cs with
  | nil =>
      cases read
      exact ⟨[], rfl, .none⟩
  | cons c cs =>
      simp only [exponentOf?] at read
      split at read
      · next marked =>
        split at read
        · cases read
        · next nonempty =>
          cases read
          obtain ⟨sign, eq, signed⟩ := sign_of_signOf cs
          refine ⟨c :: (sign ++ (Decimal.signOf cs).2.takeWhile Char.isDigit), ?_,
            .some marked signed ((digits_takeWhile _).resolve_left nonempty)⟩
          rw [List.cons_append, List.append_assoc, List.takeWhile_append_dropWhile, ← eq]
      · cases read
        exact ⟨[], rfl, .none⟩

theorem exponentOf?_eq_some {exponent : Option (Bool × List Char)} {w rest : List Char}
    (written : ExponentText exponent w) (ends : Ends rest) :
    exponentOf? (w ++ rest) = some (exponent, rest) := by
  have noDigit : ∀ c ∈ rest.head?, c.isDigit = false := fun c front => (ends c front).1
  cases written with
  | none =>
      cases rest with
      | nil => rfl
      | cons c rest =>
          have noMark : ¬(c = 'e' ∨ c = 'E') := fun mark =>
            mark.elim (ends c rfl).2.2.1 (ends c rfl).2.2.2
          rw [List.nil_append, exponentOf?, if_neg noMark]
  | @some negative mark sign ds marked signed digits =>
      have split : (mark :: (sign ++ ds)) ++ rest = mark :: (sign ++ (ds ++ rest)) := by simp
      rw [split, exponentOf?, if_pos marked]
      simp only [signOf_append signed digits, Text.takeWhile_append_of_ends digits.2 noDigit,
        Text.dropWhile_append_of_ends digits.2 noDigit, if_neg digits.1]

/-- A dot or the mark of an exponent is no digit. -/
theorem noDigit_of_fraction {fraction : Option (List Char)} {exponent : Option (Bool × List Char)}
    {f e rest : List Char} (fractioned : FractionText fraction f)
    (exponented : ExponentText exponent e) (ends : Ends rest) :
    ∀ c ∈ (f ++ (e ++ rest)).head?, c.isDigit = false := by
  intro c front
  cases fractioned with
  | some => cases front; decide
  | none =>
      cases exponented with
      | none => exact (ends c front).1
      | some marked =>
          cases front
          rcases marked with rfl | rfl <;> decide

/-- The mark of an exponent is no dot. -/
theorem ends_of_exponent {exponent : Option (Bool × List Char)} {e rest : List Char}
    (exponented : ExponentText exponent e) (ends : Ends rest) :
    ∀ c ∈ (e ++ rest).head?, c.isDigit = false ∧ c ≠ '.' := by
  intro c front
  cases exponented with
  | none => exact ⟨(ends c front).1, (ends c front).2.1⟩
  | some marked =>
      cases front
      rcases marked with rfl | rfl <;> decide

theorem unsigned_of_unsigned? {negative : Bool} {cs rest : List Char} {l : Literal}
    (read : unsigned? negative cs = some (l, rest)) :
    ∃ w, cs = w ++ rest ∧ ∀ sign, (negative, sign) ∈ [(false, []), (true, ['-'])] →
      l.Written (sign ++ w) := by
  unfold unsigned? at read
  dsimp only at read
  split at read
  · cases read
  · next proper =>
    simp only [not_or, not_and, not_not] at proper
    obtain ⟨⟨fraction, behind⟩, fractionRead, read⟩ := Option.bind_eq_some_iff.mp read
    obtain ⟨⟨exponent, rest'⟩, exponentRead, eq⟩ := Option.map_eq_some_iff.mp read
    cases eq
    obtain ⟨f, fEq, fractioned⟩ := fraction_of_fractionOf? fractionRead
    obtain ⟨e, eEq, exponented⟩ := exponent_of_exponentOf? exponentRead
    refine ⟨cs.takeWhile Char.isDigit ++ (f ++ e), ?_, fun sign signed =>
      .mk signed ((digits_takeWhile _).resolve_left proper.1) proper.2 fractioned exponented⟩
    rw [List.append_assoc, List.append_assoc, ← eEq, ← fEq, List.takeWhile_append_dropWhile]

theorem unsigned?_eq_some {negative : Bool} {whole f e rest : List Char}
    {fraction : Option (List Char)} {exponent : Option (Bool × List Char)} (digits : Digits whole)
    (proper : whole.head? = some '0' → whole = ['0']) (fractioned : FractionText fraction f)
    (exponented : ExponentText exponent e) (ends : Ends rest) :
    unsigned? negative (whole ++ (f ++ (e ++ rest))) =
      some (⟨negative, whole, fraction, exponent⟩, rest) := by
  have noDigit := noDigit_of_fraction fractioned exponented ends
  have ok : ¬(whole = [] ∨ (whole.head? = some '0' ∧ whole ≠ ['0'])) := by
    simp only [not_or, not_and, not_not]
    exact ⟨digits.1, proper⟩
  simp only [unsigned?, Text.takeWhile_append_of_ends digits.2 noDigit,
    Text.dropWhile_append_of_ends digits.2 noDigit, if_neg ok,
    fractionOf?_eq_some fractioned (ends_of_exponent exponented ends), Option.bind_some,
    exponentOf?_eq_some exponented ends, Option.map_some]

/-- What is read as a number is written so. -/
theorem written_of_literal? {cs rest : List Char} {l : Literal}
    (read : literal? cs = some (l, rest)) : ∃ w, cs = w ++ rest ∧ l.Written w := by
  unfold literal? at read
  split at read
  · obtain ⟨w, rfl, written⟩ := unsigned_of_unsigned? read
    exact ⟨'-' :: w, rfl, written ['-'] (by simp)⟩
  · obtain ⟨w, rfl, written⟩ := unsigned_of_unsigned? read
    exact ⟨w, rfl, written [] (by simp)⟩

/-- **What is written as a number is read**, where the number ends. -/
theorem literal?_eq_some {l : Literal} {w rest : List Char} (written : l.Written w)
    (ends : Ends rest) : literal? (w ++ rest) = some (l, rest) := by
  cases written with
  | @mk negative sign whole fraction exponent f e signed digits proper fractioned exponented =>
      have read : unsigned? negative (whole ++ (f ++ (e ++ rest))) = _ :=
        unsigned?_eq_some digits proper fractioned exponented ends
      simp only [List.append_assoc]
      simp only [List.mem_cons, Prod.mk.injEq, List.not_mem_nil, or_false] at signed
      rcases signed with ⟨rfl, rfl⟩ | ⟨rfl, rfl⟩
      · obtain ⟨d, ds, rfl⟩ := List.exists_cons_of_ne_nil digits.1
        have digit := digits.2 d List.mem_cons_self
        rw [List.nil_append]
        unfold literal?
        split
        · next eq =>
          cases eq
          exact absurd digit (by decide)
        · exact read
      · exact read

/-- A number is taken where it ends. -/
theorem takes_number {l : Literal} {w rest : List Char} (written : l.Written w)
    (ends : Ends rest) :
    Takes number (w ++ rest) ((l.number?.map Json.number).getD .unreadable) rest := by
  unfold Takes number
  split
  · next none =>
    rw [literal?_eq_some written ends] at none
    cases none
  · next found =>
    rw [literal?_eq_some written ends] at found
    cases found
    exact ⟨_, rfl, rfl, rfl⟩

/-- What is taken as a number is written so. -/
theorem written_of_takes_number {cs rest : List Char} {j : Json}
    (takes : Takes number cs j rest) : ∃ (l : Literal) (w : List Char), cs = w ++ rest ∧
      l.Written w ∧ j = (l.number?.map Json.number).getD .unreadable := by
  obtain ⟨r, read, rfl, rfl⟩ := takes
  unfold number at read
  split at read
  · cases read
  · next l rest found =>
    cases read
    obtain ⟨w, eq, written⟩ := written_of_literal? found
    exact ⟨l, w, eq, written, rfl⟩

end Reading

end Workflow.Json
