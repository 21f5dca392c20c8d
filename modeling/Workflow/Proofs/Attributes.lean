import Workflow.Proofs.Durations
import Workflow.Retry

/-!
# Values of attributes

Every value has a canonical text, and only a text can have an empty one.

Where a whole number is asked for, a text will do that begins with one: blanks, a sign, and all
the digits that follow.  The sign is set aside while the digits are read, and the digits alone
must fit a word of 64 bits.  The least word of all is therefore the one number that is not read
from any text, its own literal included; it is taken for zero like a text without a number.

## Main Definitions

* `Attributes.Begins` — a text begins with a number, of any size.

## Main Statements

* `Value.render_ne_empty` — whatever is no text has a text that is not empty.
* `Attributes.begins_iff` — where the number stands with which a text begins.
* `Attributes.leadingInteger?_of_begins`, `Attributes.leadingInteger?_eq_none` — what is read of
  any text.
* `Attributes.integer_quoted_iff` — a literal that is quoted means the same, the least apart.
* `Attributes.reads_front` — all this, with what follows for weights and for budgets.
* `Attributes.least_word_unread` — the weight that is lost when it is quoted.
-/

namespace Workflow

/-! ### Canonical texts -/

theorem Decimal.showInt_ne_empty (n : Int) : showInt n ≠ "" := by
  intro eq
  obtain ⟨sign, digits, list, -, nonempty, -⟩ := exists_sign_digits n
  rw [eq] at list
  exact nonempty (List.append_eq_nil_iff.mp list.symm).2

namespace Decimal.Layout

variable (layout : Layout)

/-- A number has one digit at least, be it the zero in front of the point. -/
theorem positionalText_ne_empty (d : Digits) : layout.positionalText d ≠ "" := by
  unfold positionalText
  dsimp only
  split
  · simp
  · split
    · next before whole =>
        intro eq
        have none := String.ofList_eq_empty_iff.mp (String.append_eq_empty_iff.mp eq).1
        obtain ⟨digits, zeros⟩ := List.append_eq_nil_iff.mp none
        rw [digits, List.replicate_eq_nil_iff] at zeros
        simp at zeros
        omega
    · simp

theorem exponentText_ne_empty (d : Digits) : exponentText d ≠ "" := by
  simp [exponentText]

theorem unsignedText_ne_empty (significand : Nat) (exponent : Int) :
    layout.unsignedText significand exponent ≠ "" := by
  unfold unsignedText
  dsimp only
  split
  · simp
  · split
    · exact layout.positionalText_ne_empty _
    · exact exponentText_ne_empty _

end Decimal.Layout

namespace Value

theorem decimals_text_ne_empty (x : Float) : decimals.text x ≠ "" := by
  unfold Decimal.Layout.text
  split
  · decide
  · split <;> decide
  · intro eq
    exact decimals.unsignedText_ne_empty _ _ (String.append_eq_empty_iff.mp eq).2

/-- **Whatever is no text has a text that is not empty.** -/
theorem render_ne_empty {value : Value} (other : value.text? = none) : value.render ≠ "" := by
  cases value with
  | text s => cases other
  | integer n => exact Decimal.showInt_ne_empty n.toInt
  | float x => exact decimals_text_ne_empty x
  | boolean b => cases b <;> decide
  | duration millis => exact Decimal.showInt_ne_empty millis.toInt

end Value

namespace Attributes

open Decimal (number IsWord)

/-! ### Texts that begin with a number -/

/-- The text begins with a number, of any size: blanks, a sign, and digits up to the first character
that is none. -/
inductive Begins : List Char → Int → Prop
  | mk {blanks sign digits rest : List Char} (apart : ∀ c ∈ blanks, Text.isBlank c = true)
      (signed : sign = ['+'] ∨ Lexer.IsSign sign) (whole : Lexer.Digits digits)
      (ends : ∀ c ∈ rest.head?, c.isDigit = false) :
      Begins (blanks ++ (sign ++ (digits ++ rest))) (number sign digits)

/-- The word that holds a number, when one holds its amount as well. -/
def held? (n : Int) : Option Int64 :=
  if n.natAbs ≤ Int64.maxValue.toInt then some (Int64.ofInt n) else none

/-- The numbers that a word holds with their amounts are the words but the least. -/
theorem toInt_held? (n : Int) : ((held? n).getD 0).toInt =
    if IsWord n ∧ n ≠ -9223372036854775808 then n else 0 := by
  have most : Int64.maxValue.toInt = 9223372036854775807 := rfl
  unfold held? IsWord
  rw [most]
  split
  · next fits =>
      rw [if_pos (by omega)]
      exact Int64.toInt_ofInt_of_le (by omega) (by omega)
  · next large =>
      rw [if_neg (by omega)]
      rfl

/-! ### Reading the front -/

/-- The sign at the front of a text, and what follows. -/
def signAndRest : List Char → List Char × List Char
  | '-' :: cs => (['-'], cs)
  | '+' :: cs => (['+'], cs)
  | cs => ([], cs)

theorem signAndRest_append (cs : List Char) :
    (signAndRest cs).1 ++ (signAndRest cs).2 = cs ∧
      ((signAndRest cs).1 = ['+'] ∨ Lexer.IsSign (signAndRest cs).1) := by
  unfold signAndRest
  split
  · exact ⟨rfl, .inr (.inr rfl)⟩
  · exact ⟨rfl, .inl rfl⟩
  · exact ⟨rfl, .inr (.inl rfl)⟩

/-- A sign in front of digits is found, and digits without one are left alone. -/
theorem signAndRest_of_digits {sign digits : List Char} (signed : sign = ['+'] ∨ Lexer.IsSign sign)
    (whole : Lexer.Digits digits) (rest : List Char) :
    signAndRest (sign ++ (digits ++ rest)) = (sign, digits ++ rest) := by
  rcases signed with rfl | rfl | rfl
  · rfl
  · obtain ⟨d, ds, rfl⟩ := List.exists_cons_of_ne_nil whole.1
    have digit := whole.2 d List.mem_cons_self
    unfold signAndRest
    split
    · next eq => cases eq; cases digit
    · next eq => cases eq; cases digit
    · rfl
  · rfl

/-- Behind blanks this is so too, since neither a sign nor a digit is blank. -/
theorem signAndRest_trimStart {blanks sign digits : List Char}
    (apart : ∀ c ∈ blanks, Text.isBlank c = true) (signed : sign = ['+'] ∨ Lexer.IsSign sign)
    (whole : Lexer.Digits digits) (rest : List Char) :
    signAndRest (Text.trimStart (blanks ++ (sign ++ (digits ++ rest)))) = (sign, digits ++ rest) := by
  have solid : ∀ c ∈ (sign ++ (digits ++ rest)).head?, Text.isBlank c = false := by
    obtain ⟨d, ds, rfl⟩ := List.exists_cons_of_ne_nil whole.1
    intro c first
    rcases signed with rfl | rfl | rfl <;> cases first
    · rfl
    · exact Text.isBlank_of_isDigit (whole.2 d List.mem_cons_self)
    · rfl
  have trimmed : Text.trimStart (blanks ++ (sign ++ (digits ++ rest))) = _ :=
    Text.dropWhile_append_of_ends apart solid
  rw [trimmed, signAndRest_of_digits signed whole]

theorem readNat?_takeWhile (cs : List Char) : Decimal.readNat? (cs.takeWhile Char.isDigit) =
    if cs.takeWhile Char.isDigit = [] then none
    else some (Nat.ofDigitChars 10 (cs.takeWhile Char.isDigit) 0) := by
  split
  · next none => rw [none]; rfl
  · next nonempty =>
      exact if_pos ⟨nonempty, List.all_eq_true.mpr fun _ mem => List.mem_takeWhile_imp mem⟩

section Parts

variable {cs sign behind : List Char} {n : Int}
  (parts : signAndRest (Text.trimStart cs) = (sign, behind))
include parts

/-- Digits behind the sign make a number at the front. -/
theorem begins_of_parts (nonempty : behind.takeWhile Char.isDigit ≠ []) :
    Begins cs (number sign (behind.takeWhile Char.isDigit)) := by
  obtain ⟨front, signed⟩ := signAndRest_append (Text.trimStart cs)
  rw [parts] at front signed
  have ends : ∀ c ∈ (behind.dropWhile Char.isDigit).head?, c.isDigit = false := by
    intro c first
    have stop := List.head?_dropWhile_not Char.isDigit behind
    rwa [first] at stop
  have begins : Begins (cs.takeWhile Text.isBlank ++
      (sign ++ (behind.takeWhile Char.isDigit ++ behind.dropWhile Char.isDigit))) _ :=
    .mk (fun _ mem => List.mem_takeWhile_imp mem) signed
      ⟨nonempty, fun _ mem => List.mem_takeWhile_imp mem⟩ ends
  rw [List.takeWhile_append_dropWhile, front] at begins
  have all : cs.takeWhile Text.isBlank ++ Text.trimStart cs = cs := List.takeWhile_append_dropWhile
  rwa [all] at begins

/-- The only number at the front is that of the digits behind the sign. -/
theorem begins_iff : Begins cs n ↔
    behind.takeWhile Char.isDigit ≠ [] ∧ n = number sign (behind.takeWhile Char.isDigit) := by
  constructor
  · intro begins
    cases begins with
    | mk apart signed whole ends =>
        rw [signAndRest_trimStart apart signed whole] at parts
        cases parts
        rw [Text.takeWhile_append_of_ends whole.2 ends]
        exact ⟨whole.1, rfl⟩
  · rintro ⟨nonempty, rfl⟩
    exact begins_of_parts parts nonempty

/-- The reader takes the digits behind the sign, if there are any. -/
theorem leadingInteger?_eq : leadingInteger? cs =
    if behind.takeWhile Char.isDigit = [] then none
    else held? (number sign (behind.takeWhile Char.isDigit)) := by
  unfold leadingInteger?
  generalize Text.trimStart cs = front at parts
  unfold signAndRest at parts
  split at parts
  all_goals
    cases parts
    simp only [readNat?_takeWhile]
    split
    · rfl
    · simp [held?, number]

end Parts

section Texts

variable {cs : List Char} {n : Int}

/-- **What is read of a text that begins with a number**: the number, if its digits fit a word. -/
theorem leadingInteger?_of_begins (begins : Begins cs n) : leadingInteger? cs = held? n := by
  generalize parts : signAndRest (Text.trimStart cs) = pair
  obtain ⟨nonempty, rfl⟩ := (begins_iff parts).mp begins
  rw [leadingInteger?_eq parts, if_neg nonempty]

/-- **Of a text that begins with no number nothing is read.** -/
theorem leadingInteger?_eq_none (without : ∀ n, ¬Begins cs n) : leadingInteger? cs = none := by
  generalize parts : signAndRest (Text.trimStart cs) = pair
  rw [leadingInteger?_eq parts]
  refine if_pos (Classical.byContradiction fun nonempty => ?_)
  exact without _ (begins_of_parts parts nonempty)

/-- The canonical literal of a number begins with it. -/
theorem begins_showInt (n : Int) : Begins (Decimal.showInt n).toList n := by
  have whole : Lexer.Digits (Nat.toDigits 10 n.natAbs) :=
    ⟨Nat.toDigits_ne_nil, Decimal.isDigit_of_mem_toDigits _⟩
  have begins {sign : List Char} (signed : Lexer.IsSign sign) :
      Begins ([] ++ (sign ++ (Nat.toDigits 10 n.natAbs ++ [])))
        (number sign (Nat.toDigits 10 n.natAbs)) :=
    .mk (List.forall_mem_nil _) (.inr signed) whole (by simp)
  simp only [List.nil_append, List.append_nil, number, Nat.ofDigitChars_ten_toDigits] at begins
  rw [Decimal.toList_showInt]
  split
  · next negative =>
      have amount : -((n.natAbs : Nat) : Int) = n := by omega
      have front := begins (.inr rfl)
      rwa [if_pos rfl, amount] at front
  · next positive =>
      have amount : ((n.natAbs : Nat) : Int) = n := by omega
      have front := begins (.inl rfl)
      rwa [if_neg (List.cons_ne_nil _ _).symm, amount] at front

end Texts

/-! ### Attributes -/

section Values

variable {attributes unquoted : Attributes} {name s : String} {w : Int64}

theorem integer_of_text (default : Int64) (found : attributes.get? name = some (.text s)) :
    attributes.integer name default = (leadingInteger? s.toList).getD 0 := by
  rw [integer, found]

theorem integer_of_integer (default : Int64) (found : attributes.get? name = some (.integer w)) :
    attributes.integer name default = w := by
  rw [integer, found]

/-- A literal that is quoted means the same as without quotes, the least apart. -/
theorem integer_of_render (default : Int64)
    (found : attributes.get? name = some (.text (Value.integer w).render)) :
    attributes.integer name default = if w = Int64.minValue then 0 else w := by
  rw [integer_of_text default found, Value.render, leadingInteger?_of_begins (begins_showInt w.toInt)]
  apply Int64.toInt_inj.mp
  rw [toInt_held?]
  have word : IsWord w.toInt := Decimal.isWord_iff.mpr ⟨w, rfl⟩
  have least : w.toInt = -9223372036854775808 ↔ w = Int64.minValue :=
    ⟨fun eq => Int64.toInt_inj.mp eq, fun eq => congrArg Int64.toInt eq⟩
  simp only [word, true_and, ne_eq, least, ite_not]
  split <;> rfl

/-- A literal is told apart from the same in quotes only where it is the least. -/
theorem integer_quoted_iff (default : Int64)
    (quoted : attributes.get? name = some (.text (Value.integer w).render))
    (plain : unquoted.get? name = some (.integer w)) :
    attributes.integer name default = unquoted.integer name default ↔ w ≠ Int64.minValue := by
  rw [integer_of_render default quoted, integer_of_integer default plain]
  split
  · next least =>
      subst least
      decide
  · next other => exact ⟨fun _ => other, fun _ => rfl⟩

/-- Budgets below zero are none, so quotes make no difference to them. -/
theorem budget_quoted (g : Graph) (id : String)
    (quoted : attributes.get? "max_retries" = some (.text (Value.integer w).render))
    (plain : unquoted.get? "max_retries" = some (.integer w)) :
    Retry.budget g ⟨id, attributes⟩ = Retry.budget g ⟨id, unquoted⟩ := by
  simp only [Retry.budget, integer_of_render _ quoted, integer_of_integer _ plain]
  split
  · next least =>
      subst least
      decide
  · rfl

/-- **Whole numbers in texts.**  A text that begins with a number between the ends of a word denotes
it, and any other text denotes zero; so does the text that begins with the least word.  The literal
of any other word means the same with and without quotes.  Weights are lost where the least word is
quoted, and budgets never. -/
theorem reads_front (default : Int64) (found : attributes.get? name = some (.text s)) :
    (∀ n, Begins s.toList n → (attributes.integer name default).toInt =
      if IsWord n ∧ n ≠ -9223372036854775808 then n else 0) ∧
    ((∀ n, ¬Begins s.toList n) → attributes.integer name default = 0) ∧
    ∀ (w : Int64) (unquoted : Attributes), s = (Value.integer w).render →
      unquoted.get? name = some (.integer w) →
        (attributes.integer name default = unquoted.integer name default ↔ w ≠ Int64.minValue) ∧
        (name = "weight" → ∀ source target,
          (Edge.weight ⟨source, target, attributes⟩ = Edge.weight ⟨source, target, unquoted⟩ ↔
            w ≠ Int64.minValue)) ∧
        (name = "max_retries" → ∀ g id,
          Retry.budget g ⟨id, attributes⟩ = Retry.budget g ⟨id, unquoted⟩) := by
  refine ⟨fun n begins => ?_, fun without => ?_, ?_⟩
  · rw [integer_of_text default found, leadingInteger?_of_begins begins, toInt_held?]
  · rw [integer_of_text default found, leadingInteger?_eq_none without]
    rfl
  · rintro w unquoted rfl plain
    refine ⟨integer_quoted_iff default found plain, ?_, ?_⟩
    · rintro rfl source target
      exact integer_quoted_iff 0 found plain
    · rintro rfl g id
      exact budget_quoted g id found plain

end Values

/-- A number with blanks in front, a sign and leading zeros is read up to the first character that
is no digit, and the literal of the greatest word weighs as much as the word. -/
theorem padded_front_read :
    Begins "\t+007 tries".toList 7 ∧
      integer (.ofList [("max_retries", .text "\t+007 tries")]) "max_retries" 1 = 7 ∧
      Edge.weight ⟨"a", "b", .ofList [("weight", .text "9223372036854775807")]⟩ =
        Edge.weight ⟨"a", "b", .ofList [("weight", .integer 9223372036854775807)]⟩ := by
  have whole : Lexer.Digits ['0', '0', '7'] := ⟨by simp, List.all_eq_true.mp rfl⟩
  have begins : Begins (['\t'] ++ (['+'] ++ (['0', '0', '7'] ++ [' ', 't', 'r', 'i', 'e', 's'])))
      (number ['+'] ['0', '0', '7']) :=
    .mk (List.forall_mem_singleton.mpr rfl) (.inl rfl) whole (by simp)
  have value : number ['+'] ['0', '0', '7'] = 7 := by decide
  rw [value] at begins
  have literal : "9223372036854775807" = (Value.integer 9223372036854775807).render := by
    decide +kernel
  have quoted : Table.get? (.ofList [("weight", .text "9223372036854775807")]) "weight" =
      some (Value.text "9223372036854775807") := Table.get?_insert_self _ _ _
  refine ⟨begins, Int64.toInt_inj.mp ?_, ?_⟩
  · exact (reads_front 1 (Table.get?_insert_self _ "max_retries" _)).1 7 begins
  · obtain ⟨-, -, quotes⟩ := reads_front 0 quoted
    exact ((quotes _ _ literal (Table.get?_insert_self _ _ _)).2.1 rfl "a" "b").mpr (by decide)

/-- The least word is a number, and read where it stands without quotes.  Its literal begins with
it, but is taken for zero. -/
theorem least_word_unread :
    Begins "-9223372036854775808".toList (-9223372036854775808) ∧ IsWord (-9223372036854775808) ∧
      Edge.weight ⟨"a", "b", .ofList [("weight", .integer (-9223372036854775808))]⟩ =
        -9223372036854775808 ∧
      Edge.weight ⟨"a", "b", .ofList [("weight", .text "-9223372036854775808")]⟩ = 0 := by
  have begins := begins_showInt (-9223372036854775808)
  have literal : Decimal.showInt (-9223372036854775808) = "-9223372036854775808" := by
    decide +kernel
  rw [literal] at begins
  exact ⟨begins, by decide, by decide +kernel, by decide +kernel⟩

end Attributes

end Workflow
