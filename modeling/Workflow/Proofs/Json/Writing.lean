import Workflow.Proofs.Json.Reading

/-!
# JSON is read back as it was written

Both writers, the compact one and the one with a line for each item, write texts of the
grammar, so what they write is read back.  Doubles are left out: what they are read back as
is a question of rounding.  So is what has no text of its own, and integers that fit no word.

## Main Definitions

* `Json.Plain` — values without doubles.

## Main Statements

* `Json.Plain.parse?_compact`, `Json.Plain.parse?_pretty` — plain values are read back.

## Design Notes

The writers put their own blanks between the parts of a sequence and agree in everything
else.  `Json.separated_of_join` is about any such writer of sequences.
-/

namespace Workflow

/-! ### Digits -/

/-- Only zero begins with a zero. -/
theorem Decimal.eq_zero_of_head?_toDigits {n : Nat}
    (front : (Nat.toDigits 10 n).head? = some '0') : n = 0 := by
  induction n using Nat.strong_induction_on with
  | _ n ih =>
  rw [Nat.toDigits_eq_if (by decide)] at front
  split at front
  · simpa using front
  · next large =>
    obtain ⟨d, ds, digits⟩ :=
      List.exists_cons_of_ne_nil (Nat.toDigits_ne_nil (b := 10) (n := n / 10))
    have less : n / 10 < n := Nat.div_lt_self (by omega) (by decide)
    have zero := ih _ less (by rw [digits] at front ⊢; exact front)
    omega

namespace Json

open Reading
open Lexer (Digits)

/-- An integer that fits a signed or an unsigned word. -/
def Fits (n : Int) : Prop := Int64.minValue.toInt ≤ n ∧ n < UInt64.size

/-- Values without doubles: every part of them has a text of its own. -/
inductive Plain : Json → Prop
  | null : Plain .null
  | boolean (b : Bool) : Plain (.boolean b)
  | integer {n : Int} (fits : Fits n) : Plain (.number (.integer n))
  | string (s : String) : Plain (.string s)
  | array {items : List Json} (plain : ∀ j ∈ items, Plain j) : Plain (.array items)
  | object {members : List (String × Json)} (plain : ∀ m ∈ members, Plain m.2) :
      Plain (.object members)

/-! ### Numbers -/

/-- The literal of an integer. -/
def Literal.ofInt (n : Int) : Literal := ⟨decide (n < 0), Nat.toDigits 10 n.natAbs, none, none⟩

theorem Literal.written_ofInt (n : Int) : (ofInt n).Written (Decimal.showInt n).toList := by
  have digits : Digits (Nat.toDigits 10 n.natAbs) :=
    ⟨Nat.toDigits_ne_nil, Decimal.isDigit_of_mem_toDigits _⟩
  have proper : (Nat.toDigits 10 n.natAbs).head? = some '0' →
      Nat.toDigits 10 n.natAbs = ['0'] := by
    intro front
    rw [Decimal.eq_zero_of_head?_toDigits front]
    rfl
  have text : (Decimal.showInt n).toList =
      (if n < 0 then ['-'] else []) ++ (Nat.toDigits 10 n.natAbs ++ ([] ++ [])) := by
    rw [Decimal.toList_showInt]
    simp
  rw [text]
  refine .mk ?_ digits proper .none .none
  by_cases negative : n < 0
  · simp [negative]
  · simp [negative]

/-- **An integer is what its literal denotes**, if it fits a word. -/
theorem Literal.number?_ofInt {n : Int} (fits : Fits n) :
    (ofInt n).number? = some (.integer n) := by
  have amount : Decimal.natOfDigits (Nat.toDigits 10 n.natAbs) = n.natAbs :=
    Nat.ofDigitChars_ten_toDigits
  have integer : (ofInt n).integer? = some n := by
    simp only [integer?, ofInt, Option.isSome_none, Bool.false_eq_true, or_self, if_false, amount]
    by_cases negative : n < 0
    · have bounds : 0 < n.natAbs ∧ Int64.minValue.toInt ≤ -(n.natAbs : Int) :=
        ⟨by omega, by have := fits.1; omega⟩
      rw [if_pos (decide_eq_true negative), if_pos bounds]
      exact congrArg some (by omega)
    · have bound : n.natAbs < UInt64.size := by have := fits.2; omega
      rw [if_neg (by simpa using negative), if_pos bound]
      exact congrArg some (by omega)
  rw [number?, integer]

/-! ### Strings -/

theorem hex4?_control : ∀ n < 32,
    hex4? '0' '0' (hexDigit (n / 16)) (hexDigit (n % 16)) = some n := by
  decide

/-- A character as it is written between quotes. -/
theorem body_escapeChar (c : Char) {units : List Nat} {body : List Char}
    (others : Body units body) : Body (c.toNat :: units) (escapeChar c ++ body) := by
  unfold escapeChar
  split
  · next quote =>
    subst quote
    exact .escape (by decide) others
  split
  · next backslash =>
    subst backslash
    exact .escape (by decide) others
  split
  · next line =>
    subst line
    exact .escape (by decide) others
  split
  · next back =>
    subst back
    exact .escape (by decide) others
  split
  · next tab =>
    subst tab
    exact .escape (by decide) others
  split
  · next erase =>
    subst erase
    exact .escape (by decide) others
  split
  · next feed =>
    subst feed
    exact .escape (by decide) others
  split
  · next control => exact .numeric (hex4?_control c.toNat control) others
  · next noQuote noBackslash _ _ _ _ _ visible =>
    exact .plain (Nat.not_lt.mp visible) noQuote noBackslash others

theorem body_flatMap_escapeChar (cs : List Char) :
    Body (cs.map Char.toNat) (cs.flatMap escapeChar) := by
  induction cs with
  | nil => exact .nil
  | cons c cs ih => exact body_escapeChar c ih

/-- No character is half of a surrogate pair. -/
theorem not_isHigh_not_isLow (c : Char) : isHigh c.toNat = false ∧ isLow c.toNat = false := by
  have valid := c.valid
  simp only [UInt32.isValidChar, Nat.isValidChar] at valid
  simp only [isHigh, isLow, Bool.and_eq_false_imp, decide_eq_true_eq, decide_eq_false_iff_not,
    Char.toNat]
  omega

/-- Characters are what their code points stand for. -/
theorem charsOfUnits?_map_toNat (cs : List Char) : charsOfUnits? (cs.map Char.toNat) = some cs := by
  induction cs with
  | nil => rfl
  | cons c cs ih =>
      obtain ⟨noHigh, noLow⟩ := not_isHigh_not_isLow c
      cases cs with
      | nil => simp [charsOfUnits?, noHigh, noLow]
      | cons d cs =>
          simp only [List.map_cons] at ih ⊢
          simp [charsOfUnits?, noHigh, noLow, ih]

/-- **A text is written between quotes.** -/
theorem quoted_writeString (s : String) : Quoted (some s) (writeString s) := by
  refine ⟨s.toList.map Char.toNat, s.toList.flatMap escapeChar, body_flatMap_escapeChar _, rfl, ?_⟩
  rw [charsOfUnits?_map_toNat, Option.map_some, String.ofList_toList]

/-! ### Sequences -/

theorem blanks_nil : Blanks [] := List.forall_mem_nil _

theorem blanks_newLine (depth : Nat) : Blanks (newLine depth) := by
  intro c mem
  rcases List.mem_cons.mp mem with rfl | mem
  · rfl
  · rw [List.eq_of_mem_replicate mem]
    rfl

/-- **What is written with commas between its parts is a sequence.**  The writer `join` puts `gap`
in front of each part, and `behind` stands in front of the mark that closes the sequence. -/
theorem separated_of_join {α : Type} {r : α → List Char → Prop} {close : Char}
    (text : α → List Char) (join : List α → List Char) {gap behind : List Char}
    (one : ∀ x, join [x] = gap ++ text x)
    (more : ∀ x y xs, join (x :: y :: xs) = gap ++ (text x ++ ',' :: join (y :: xs)))
    (before : Blanks gap) (last : Blanks behind) {xs : List α} (nonempty : xs ≠ [])
    (each : ∀ x ∈ xs, r x (text x)) :
    Separated r close xs (join xs ++ (behind ++ [close])) := by
  induction xs with
  | nil => exact absurd rfl nonempty
  | cons x xs ih =>
      obtain ⟨first, others⟩ := List.forall_mem_cons.mp each
      cases xs with
      | nil =>
          rw [one, List.append_assoc]
          exact .last before first last
      | cons y xs =>
          have split : join (x :: y :: xs) ++ (behind ++ [close]) =
              gap ++ (text x ++ ([] ++ ',' :: (join (y :: xs) ++ (behind ++ [close])))) := by
            rw [more]
            simp
          rw [split]
          exact .more before first blanks_nil (ih (List.cons_ne_nil _ _) others)

/-- The same text, with other names for its parts. -/
theorem Separated.map {α β : Type} {r : β → List Char → Prop} {close : Char} {f : α → β}
    {xs : List α} {w : List Char} (separated : Separated (fun x => r (f x)) close xs w) :
    Separated r close (xs.map f) w := by
  induction separated with
  | last before item behind => exact .last before item behind
  | more before item behind others ih => exact .more before item behind ih

/-! ### Values -/

/-- A member as it is read: its name is a text. -/
def named (m : String × Json) : Option String × Json := (some m.1, m.2)

/-- An object is read from its members. -/
theorem objectOf_map_named (members : List (String × Json)) :
    objectOf (members.map named) = .object members := by
  have texts (f : Option String × Json → Option (String × Json))
      (back : ∀ m, f (named m) = some m) : (members.map named).mapM f = some members := by
    induction members with
    | nil => rfl
    | cons m members ih => simp [back, List.mapM_cons, ih]
  rw [objectOf, texts _ fun _ => rfl]

theorem written_emptyObject : Written (.object []) ['\x7b', '\x7d'] := by
  have written := Written.object (.empty blanks_nil)
  exact written

theorem written_object {members : List (String × Json)} {w : List Char}
    (separated : Separated (fun m => Member Written (named m)) '\x7d' members w) :
    Written (.object members) ('\x7b' :: w) := by
  rw [← objectOf_map_named]
  exact .object (.items separated.map)

namespace Plain

variable {j : Json}

theorem written_boolean (b : Bool) :
    Written (.boolean b) (if b then "true".toList else "false".toList) := by
  cases b with
  | true => exact .true
  | false => exact .false

theorem written_integer {n : Int} (fits : Fits n) :
    Written (.number (.integer n)) (Number.render (.integer n)).toList := by
  have written := Written.number (Literal.written_ofInt n)
  rwa [Literal.number?_ofInt fits] at written

theorem written_string (s : String) : Written (.string s) (writeString s) :=
  .string (quoted_writeString s)

/-- **The compact text of a value is in the grammar.** -/
theorem written_write (plain : Plain j) : Written j j.write := by
  induction plain with
  | null => exact .null
  | boolean b => exact written_boolean b
  | integer fits => exact written_integer fits
  | string s => exact written_string s
  | @array items plain ih =>
      rw [write]
      by_cases none : items = []
      · rw [none]
        exact .array (.empty blanks_nil)
      · exact .array (.items (separated_of_join write writeItems (fun _ => rfl) (fun _ _ _ => rfl)
          blanks_nil blanks_nil none ih))
  | @object members plain ih =>
      rw [write]
      by_cases none : members = []
      · rw [none]
        exact written_emptyObject
      · refine written_object (separated_of_join (fun m => writeString m.1 ++ ':' :: write m.2)
          writeMembers (fun _ => rfl) (fun m n more => ?_) blanks_nil blanks_nil none
          fun m mem => ?_)
        · simp [writeMembers]
        · exact .mk (quoted_writeString m.1) blanks_nil blanks_nil (ih m mem)

/-- **The text with a line for each item is in the grammar.** -/
theorem written_writePretty (plain : Plain j) (depth : Nat) :
    Written j (j.writePretty depth) := by
  induction plain generalizing depth with
  | null => exact .null
  | boolean b => exact written_boolean b
  | integer fits => exact written_integer fits
  | string s => exact written_string s
  | @array items plain ih =>
      by_cases none : items = []
      · rw [none]
        exact .array (.empty blanks_nil)
      · have text : writePretty depth (.array items) =
            '[' :: (prettyItems (depth + 1) items ++ (newLine depth ++ [']'])) := by
          rw [writePretty, List.append_assoc]
          exact none
        rw [text]
        refine .array (.items (separated_of_join (writePretty (depth + 1))
          (prettyItems (depth + 1)) (fun _ => rfl) (fun _ _ _ => ?_) (blanks_newLine _)
          (blanks_newLine _) none fun item mem => ih item mem (depth + 1)))
        simp [prettyItems]
  | @object members plain ih =>
      by_cases none : members = []
      · rw [none]
        exact written_emptyObject
      · have text : writePretty depth (.object members) =
            '\x7b' :: (prettyMembers (depth + 1) members ++ (newLine depth ++ ['\x7d'])) := by
          rw [writePretty, List.append_assoc]
          exact none
        rw [text]
        refine written_object (separated_of_join
          (fun m => writeString m.1 ++ ':' :: ' ' :: writePretty (depth + 1) m.2)
          (prettyMembers (depth + 1)) (fun m => ?_) (fun m n more => ?_)
          (blanks_newLine (depth + 1)) (blanks_newLine depth) none fun m mem => ?_)
        · simp [prettyMembers]
        · simp [prettyMembers]
        · exact @Member.mk Written _ _ _ [] [' '] _ (quoted_writeString m.1) blanks_nil
            (List.forall_mem_singleton.mpr rfl) (ih m mem (depth + 1))

theorem holds_of_written {w : List Char} (written : Written j w) : Holds (String.ofList w) j :=
  ⟨[], w, [], by simp, blanks_nil, written, blanks_nil⟩

/-- **A plain value is read back from its compact text.** -/
theorem parse?_compact (plain : Plain j) : parse? j.compact = some j :=
  parse?_eq_some_iff.mpr (holds_of_written plain.written_write)

/-- **A plain value is read back from its indented text.** -/
theorem parse?_pretty (plain : Plain j) : parse? j.pretty = some j :=
  parse?_eq_some_iff.mpr (holds_of_written (plain.written_writePretty 0))

end Plain

end Json

end Workflow
