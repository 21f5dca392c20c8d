import Workflow.Proofs.Lexer.Spelling
import Workflow.Proofs.Lexer.Tiling
import Workflow.Statement

/-!
# Durations are read exactly

A length of time is spelled by a number and a unit and comes to their product, which may be of
any size.  The reader works with words of 64 bits and asks twice whether a number fits one:
before it multiplies and after.  The first question refuses nothing that the second would have
accepted, since no unit makes a number smaller.  What is refused is therefore what is no
spelling at all, and a product that does not fit.

The lexer has a scanner of its own for such literals.  Whatever it takes for one is a spelling,
so the only thing that can be wrong with a duration among the tokens is its size.

## Main Definitions

* `Decimal.number` — the number that a sign and digits denote, of any size.
* `Duration.Spelled` — the texts that spell a length of time, with its milliseconds.

## Main Statements

* `Duration.read?_eq_some_iff` — what the reader reads of any text.
* `Duration.exists_spelled_of_token` — duration tokens are spellings.
* `Duration.reads_exactly` — both, with what is said of a text that is refused.
-/

namespace Workflow

namespace Decimal

/-- The number that a sign and digits denote, of any size. -/
def number (sign digits : List Char) : Int :=
  if sign = ['-'] then -(Nat.ofDigitChars 10 digits 0 : Int) else Nat.ofDigitChars 10 digits 0

/-- The number fits a word of 64 bits. -/
def IsWord (n : Int) : Prop := -9223372036854775808 ≤ n ∧ n ≤ 9223372036854775807

instance (n : Int) : Decidable (IsWord n) := inferInstanceAs (Decidable (_ ∧ _))

theorem isWord_iff {n : Int} : IsWord n ↔ ∃ w : Int64, w.toInt = n := by
  constructor
  · rintro ⟨low, high⟩
    exact ⟨Int64.ofInt n, Int64.toInt_ofInt_of_le (by omega) (by omega)⟩
  · rintro ⟨w, rfl⟩
    exact ⟨w.le_toInt, Int.le_of_lt_add_one w.toInt_lt⟩

/-- A sign and digits are read exactly when their number fits a word. -/
theorem readInt64?_append {sign digits : List Char} (signed : sign = [] ∨ sign = ['-'])
    (nonempty : digits ≠ []) (whole : ∀ d ∈ digits, d.isDigit = true) :
    readInt64? (sign ++ digits) = int64? (number sign digits) := by
  have read : readNat? digits = some (Nat.ofDigitChars 10 digits 0) :=
    if_pos ⟨nonempty, List.all_eq_true.mpr whole⟩
  rcases signed with rfl | rfl
  · rw [List.nil_append, readInt64?_of_isDigit whole, read, Option.bind_some, number,
      if_neg (List.cons_ne_nil _ _).symm]
  · rw [List.singleton_append, readInt64?, read, Option.bind_some, number, if_pos rfl]

end Decimal

namespace Duration

open Decimal (number IsWord isWord_iff)

/-! ### Spellings -/

/-- The units with their milliseconds. -/
def factors : List (List Char × Int) :=
  [(['m', 's'], 1), (['s'], 1000), (['m'], 60000), (['h'], 3600000), (['d'], 86400000)]

/-- A text that spells a length of time, and its milliseconds: a number, spaces and tabs, and a
unit.  It may be of any size. -/
inductive Spelled : List Char → Int → Prop
  | mk {sign digits gap unit : List Char} {factor : Int} (signed : Lexer.IsSign sign)
      (whole : Lexer.Digits digits) (apart : ∀ c ∈ gap, c = ' ' ∨ c = '\t')
      (known : (unit, factor) ∈ factors) :
      Spelled (sign ++ (digits ++ (gap ++ unit))) (number sign digits * factor)

/-- There need be no gap. -/
theorem Spelled.ofParts {sign digits unit : List Char} {factor : Int} (signed : Lexer.IsSign sign)
    (whole : Lexer.Digits digits) (known : (unit, factor) ∈ factors) :
    Spelled (sign ++ (digits ++ unit)) (number sign digits * factor) :=
  mk signed whole (List.forall_mem_nil _) known

theorem isGap_iff {c : Char} : isGap c = true ↔ c = ' ' ∨ c = '\t' := by
  simp [isGap]

section Units

variable {unit : List Char} {factor : Int}

theorem unitMillis?_eq_some_iff :
    unitMillis? (String.ofList unit) = some factor ↔ (unit, factor) ∈ factors := by
  constructor
  · intro found
    unfold unitMillis? at found
    split at found
    case h_6 => cases found
    all_goals
      next spelled =>
        obtain rfl := String.ofList_injective spelled
        cases found
        decide
  · intro known
    simp only [factors, List.mem_cons, Prod.mk.injEq, List.not_mem_nil, or_false] at known
    rcases known with ⟨rfl, rfl⟩ | ⟨rfl, rfl⟩ | ⟨rfl, rfl⟩ | ⟨rfl, rfl⟩ | ⟨rfl, rfl⟩ <;> rfl

/-- A unit is made of letters. -/
theorem letters_of_known (known : (unit, factor) ∈ factors) :
    unit ≠ [] ∧ ∀ c ∈ unit, Lexer.isWordStart c = true := by
  have all : ∀ p ∈ factors, p.1 ≠ [] ∧ p.1.all Lexer.isWordStart = true := by decide
  obtain ⟨some, letters⟩ := all _ known
  exact ⟨some, List.all_eq_true.mp letters⟩

/-- A gap ends where the unit begins. -/
theorem unit_ends (known : (unit, factor) ∈ factors) : ∀ c ∈ unit.head?, isGap c = false := by
  intro c first
  have letter := (letters_of_known known).2 c (List.mem_of_mem_head? first)
  rw [Bool.eq_false_iff]
  intro gap
  rcases isGap_iff.mp gap with rfl | rfl <;> cases letter

/-- Digits end where the gap or the unit begins. -/
theorem gap_ends {gap : List Char} (apart : ∀ c ∈ gap, c = ' ' ∨ c = '\t')
    (known : (unit, factor) ∈ factors) : ∀ c ∈ (gap ++ unit).head?, c.isDigit = false := by
  intro c first
  rcases List.mem_append.mp (List.mem_of_mem_head? first) with mem | mem
  · rcases apart c mem with rfl | rfl <;> rfl
  · exact (Lexer.not_of_isWordStart ((letters_of_known known).2 c mem)).2

/-- No unit makes a number smaller, so a number fits a word when its product does. -/
theorem exists_word_of_product {n : Int} {product : Int64} (known : (unit, factor) ∈ factors)
    (eq : product.toInt = n * factor) : ∃ w : Int64, w.toInt = n := by
  have low := product.le_toInt
  have high := product.toInt_lt
  rw [← isWord_iff, IsWord]
  simp only [factors, List.mem_cons, Prod.mk.injEq, List.not_mem_nil, or_false] at known
  rcases known with ⟨-, rfl⟩ | ⟨-, rfl⟩ | ⟨-, rfl⟩ | ⟨-, rfl⟩ | ⟨-, rfl⟩ <;> omega

end Units

/-- There are no blanks around a spelling. -/
theorem Spelled.trim_eq {cs : List Char} {millis : Int} (spelled : Spelled cs millis) :
    Text.trim cs = cs := by
  obtain ⟨signed, whole, apart, known⟩ := spelled
  refine Text.trim_of_solid ?front ?back
  case front =>
    intro c first
    rcases signed with rfl | rfl
    · obtain ⟨d, ds, rfl⟩ := List.exists_cons_of_ne_nil whole.1
      cases first
      exact Text.isBlank_of_isDigit (whole.2 _ List.mem_cons_self)
    · cases first
      rfl
  case back =>
    obtain ⟨some, letters⟩ := letters_of_known known
    intro c back
    rw [← List.append_assoc, ← List.append_assoc, List.getLast?_append,
      List.getLast?_eq_some_getLast some] at back
    cases back
    exact (Lexer.not_of_isWordStart (letters _ (List.getLast_mem some))).1

/-- The parts of a spelling can be told by the characters that they are made of. -/
theorem Spelled.exists_factor {cs : List Char} {millis : Int} (spelled : Spelled cs millis) :
    ∃ factor,
      (((cs.dropWhile (· == '-')).dropWhile Char.isDigit).dropWhile isGap, factor) ∈ factors ∧
      millis = number (cs.takeWhile (· == '-'))
        ((cs.dropWhile (· == '-')).takeWhile Char.isDigit) * factor := by
  obtain ⟨signed, whole, apart, known⟩ := spelled
  rename_i sign digits gap unit factor
  have dashes : ∀ c ∈ sign, (c == '-') = true := by
    rcases signed with rfl | rfl <;> simp
  have noDash : ∀ c ∈ (digits ++ (gap ++ unit)).head?, (c == '-') = false := by
    intro c first
    obtain ⟨d, ds, rfl⟩ := List.exists_cons_of_ne_nil whole.1
    cases first
    rw [beq_eq_false_iff_ne]
    rintro rfl
    exact absurd (whole.2 '-' List.mem_cons_self) (by decide)
  have ends := gap_ends apart known
  rw [Text.takeWhile_append_of_ends dashes noDash, Text.dropWhile_append_of_ends dashes noDash,
    Text.takeWhile_append_of_ends whole.2 ends, Text.dropWhile_append_of_ends whole.2 ends,
    Text.dropWhile_append_of_ends (fun d mem => isGap_iff.mpr (apart d mem)) (unit_ends known)]
  exact ⟨factor, known, rfl⟩

/-- A text spells one length of time at most. -/
theorem Spelled.unique {cs : List Char} {a b : Int} (first : Spelled cs a)
    (second : Spelled cs b) : a = b := by
  obtain ⟨factor, known, rfl⟩ := first.exists_factor
  obtain ⟨factor', known', rfl⟩ := second.exists_factor
  rw [← unitMillis?_eq_some_iff] at known known'
  rw [Option.some.inj (known.symm.trans known')]

/-! ### The reader -/

/-- Behind its sign a text is cut at its digits and then at its gap. -/
theorem exists_of_unsigned {sign cs : List Char} {n : Int64} {unit : String}
    (signed : Lexer.IsSign sign)
    (read : (if cs.takeWhile Char.isDigit = [] then none
      else (Decimal.readInt64? (sign ++ cs.takeWhile Char.isDigit)).map fun n =>
        (n, String.ofList ((cs.dropWhile Char.isDigit).dropWhile isGap))) = some (n, unit)) :
    ∃ digits gap, cs = digits ++ (gap ++ unit.toList) ∧ Lexer.Digits digits ∧
      (∀ c ∈ gap, c = ' ' ∨ c = '\t') ∧ n.toInt = number sign digits := by
  split at read
  · cases read
  · next nonempty =>
      simp only [Option.map_eq_some_iff, Prod.mk.injEq] at read
      obtain ⟨n, word, rfl, rfl⟩ := read
      have whole : ∀ d ∈ cs.takeWhile Char.isDigit, d.isDigit = true :=
        fun d mem => List.mem_takeWhile_imp mem
      rw [Decimal.readInt64?_append signed nonempty whole, Decimal.int64?_eq_some_iff] at word
      refine ⟨_, (cs.dropWhile Char.isDigit).takeWhile isGap, ?_, ⟨nonempty, whole⟩,
        fun c mem => isGap_iff.mp (List.mem_takeWhile_imp mem), word⟩
      rw [String.toList_ofList, List.takeWhile_append_dropWhile, List.takeWhile_append_dropWhile]

/-- What the parts of a text are, when it has them. -/
theorem exists_of_parts? {cs : List Char} {n : Int64} {unit : String}
    (read : parts? cs = some (n, unit)) : ∃ sign digits gap,
      cs = sign ++ (digits ++ (gap ++ unit.toList)) ∧ Lexer.IsSign sign ∧ Lexer.Digits digits ∧
        (∀ c ∈ gap, c = ' ' ∨ c = '\t') ∧ n.toInt = number sign digits := by
  unfold parts? digitsAndRest at read
  split at read
  next sign unsigned cut =>
    split at cut
    · cases cut
      obtain ⟨digits, gap, rfl, others⟩ := exists_of_unsigned (.inr rfl) read
      exact ⟨['-'], digits, gap, rfl, .inr rfl, others⟩
    · cases cut
      obtain ⟨digits, gap, rfl, others⟩ := exists_of_unsigned (.inl rfl) read
      exact ⟨[], digits, gap, rfl, .inl rfl, others⟩

/-- What is cut from a spelling is its number, if that fits a word, and its unit. -/
theorem parts?_of_known {sign digits gap unit : List Char} {factor : Int}
    (signed : Lexer.IsSign sign) (whole : Lexer.Digits digits)
    (apart : ∀ c ∈ gap, c = ' ' ∨ c = '\t') (known : (unit, factor) ∈ factors) :
    parts? (sign ++ (digits ++ (gap ++ unit))) =
      (Decimal.int64? (number sign digits)).map fun n => (n, String.ofList unit) := by
  rw [parts?_append signed whole.1 whole.2 (fun d mem => isGap_iff.mpr (apart d mem))
    (gap_ends apart known) (unit_ends known), Decimal.readInt64?_append signed whole.1 whole.2]

/-- **Exactly the spellings are read**, from between blanks and as far as their milliseconds fit a
word. -/
theorem read?_eq_some_iff {text : String} {v : Int64} :
    read? text = some v ↔ Spelled (Text.trim text.toList) v.toInt := by
  simp only [read?, Option.bind_eq_bind, Option.bind_eq_some_iff, Prod.exists]
  constructor
  · rintro ⟨n, unit, parts, factor, found, product⟩
    obtain ⟨sign, digits, gap, eq, signed, whole, apart, value⟩ := exists_of_parts? parts
    rw [← String.ofList_toList (s := unit), unitMillis?_eq_some_iff] at found
    rw [Decimal.int64?_eq_some_iff] at product
    rw [eq, product, value]
    exact .mk signed whole apart found
  · generalize Text.trim text.toList = cs
    generalize millis : v.toInt = amount
    rintro ⟨signed, whole, apart, known⟩
    obtain ⟨n, value⟩ := exists_word_of_product known millis
    refine ⟨n, _, ?_, _, unitMillis?_eq_some_iff.mpr known, ?_⟩
    · rw [parts?_of_known signed whole apart known, Decimal.int64?_eq_some_iff.mpr value]
      rfl
    · rw [Decimal.int64?_eq_some_iff, millis, value]

theorem parse_eq_ok_iff {text : String} {v : Int64} :
    parse text = .ok v ↔ read? text = some v := by
  unfold parse
  cases read? text <;> simp

theorem parse_eq_error_iff {text : String} {error : Error} :
    parse text = .error error ↔ error = .invalidDuration text ∧ read? text = none := by
  unfold parse
  cases read? text <;> simp [eq_comm]

/-! ### Duration tokens -/

/-- The units of the lexer are those of the reader. -/
theorem exists_factor_of_unit {unit : List Char} (known : unit ∈ Lexer.units) :
    ∃ factor, (unit, factor) ∈ factors := by
  have same : Lexer.units = factors.map (·.1) := rfl
  rw [same, List.mem_map] at known
  obtain ⟨⟨unit, factor⟩, known, rfl⟩ := known
  exact ⟨factor, known⟩

/-- The characters of a duration token spell a length of time. -/
theorem exists_spelled_of_lexeme {kind : Kind} {value : String} {l : List Char}
    (lexeme : Lexer.Lexeme kind value l) (duration : kind = .duration) :
    ∃ millis, Spelled value.toList millis := by
  cases lexeme with
  | @duration sign digits unit signed whole known =>
      obtain ⟨factor, known⟩ := exists_factor_of_unit known
      refine ⟨number sign digits * factor, ?_⟩
      rw [String.toList_ofList, List.append_assoc]
      exact .ofParts signed whole known
  | mark known =>
      subst duration
      simp [Lexer.marks] at known
  | keyword known =>
      subst duration
      unfold Kind.keyword? at known
      split at known <;> cases known
  | arrow | identifier | integer | float | string => cases duration

/-- Every token of a text but its end was read from a lexeme. -/
theorem exists_lexeme_of_tokenize {source : String} {tokens : List Token} {t : Token}
    (read : Lexer.tokenize source = .ok tokens) (mem : t ∈ tokens) (inside : t.kind ≠ .eof) :
    ∃ l, Lexer.Lexeme t.kind t.value l := by
  have read : Lexer.tokensFrom (.behind []) source.toList = .ok tokens := read
  obtain ⟨tiles, last, tiling, eq⟩ := Lexer.exists_tiling_of_tokensFrom read
  rw [eq, List.mem_append, List.mem_singleton, List.mem_map] at mem
  rcases mem with ⟨tile, mem, rfl⟩ | rfl
  · obtain ⟨front, back, split⟩ := List.append_of_mem mem
    exact ⟨_, (tiling.placed split).lexeme⟩
  · exact absurd rfl inside

/-- **Duration tokens are spellings**, whatever their size. -/
theorem exists_spelled_of_token {source : String} {tokens : List Token} {t : Token}
    (read : Lexer.tokenize source = .ok tokens) (mem : t ∈ tokens) (duration : t.kind = .duration) :
    ∃ millis, Spelled t.value.toList millis := by
  obtain ⟨l, lexeme⟩ := exists_lexeme_of_tokenize read mem (by rw [duration]; decide)
  exact exists_spelled_of_lexeme lexeme duration

/-! ### What is read, and what is not -/

theorem read?_eq_none_iff {text : String} : read? text = none ↔
    ∀ millis, Spelled (Text.trim text.toList) millis → ¬IsWord millis := by
  constructor
  · intro nothing millis spelled fits
    obtain ⟨v, rfl⟩ := isWord_iff.mp fits
    rw [read?_eq_some_iff.mpr spelled] at nothing
    cases nothing
  · intro tooLarge
    cases read : read? text with
    | none => rfl
    | some v => exact absurd (isWord_iff.mpr ⟨v, rfl⟩) (tooLarge _ (read?_eq_some_iff.mp read))

section Values

variable {t : Token} {millis : Int} (duration : t.kind = .duration)
  (spelled : Spelled t.value.toList millis)
include duration spelled

/-- The value of a duration token is read when it fits a word. -/
theorem exists_value (fits : IsWord millis) (stop : Token) (rest : List Token) :
    ∃ v : Int64, v.toInt = millis ∧
      Grammar.value stop (t :: rest) = .ok (.duration v, rest) := by
  obtain ⟨v, rfl⟩ := isWord_iff.mp fits
  have read : read? t.value = some v := by
    rw [read?_eq_some_iff, spelled.trim_eq]
    exact spelled
  refine ⟨v, rfl, ?_⟩
  rw [Grammar.value, if_neg (by simp [duration])]
  simp only [Grammar.literal, duration, read]

/-- The value of a duration token is refused when it does not fit a word. -/
theorem value_eq_error (tooLarge : ¬IsWord millis) (stop : Token) (rest : List Token) :
    Grammar.value stop (t :: rest) = .error ⟨.durationText, t⟩ := by
  have read : read? t.value = none := by
    rw [read?_eq_none_iff, spelled.trim_eq]
    intro other spelled'
    rwa [spelled'.unique spelled]
  rw [Grammar.value, if_neg (by simp [duration])]
  simp only [Grammar.literal, duration, read]

end Values

/-- **Durations are read exactly.**  A text denotes the milliseconds that it spells between its
blanks, if they fit a word of 64 bits; any other text is refused, and named in the error.  A
duration token of a source text is a spelling with no blanks around it, so its value is refused
only if it does not fit a word. -/
theorem reads_exactly :
    (∀ (text : String) (v : Int64), parse text = .ok v ↔
      ∃ millis, Spelled (Text.trim text.toList) millis ∧ IsWord millis ∧ v.toInt = millis) ∧
    (∀ (text : String) (error : Error), parse text = .error error ↔
      error = .invalidDuration text ∧
        ∀ millis, Spelled (Text.trim text.toList) millis → ¬IsWord millis) ∧
    ∀ (source : String) (tokens : List Token) (t : Token),
      Lexer.tokenize source = .ok tokens → t ∈ tokens → t.kind = .duration →
      ∃ millis, Spelled t.value.toList millis ∧ ∀ stop rest,
        (IsWord millis → ∃ v : Int64, v.toInt = millis ∧
          Grammar.value stop (t :: rest) = .ok (.duration v, rest)) ∧
        (¬IsWord millis → Grammar.value stop (t :: rest) = .error ⟨.durationText, t⟩) := by
  refine ⟨fun text v => ?read, fun text error => ?refused, fun source tokens t found mem kind => ?_⟩
  case read =>
    rw [parse_eq_ok_iff, read?_eq_some_iff]
    constructor
    · intro spelled
      exact ⟨_, spelled, isWord_iff.mpr ⟨v, rfl⟩, rfl⟩
    · rintro ⟨millis, spelled, -, rfl⟩
      exact spelled
  case refused => rw [parse_eq_error_iff, read?_eq_none_iff]
  obtain ⟨millis, spelled⟩ := exists_spelled_of_token found mem kind
  refine ⟨millis, spelled, fun stop rest => ⟨fun fits => ?_, fun tooLarge => ?_⟩⟩
  · exact exists_value kind spelled fits stop rest
  · exact value_eq_error kind spelled tooLarge stop rest

/-- As many days as fit a word, backwards, and one too many, forwards. -/
def longest : String := "-106751991167d 106751991168d"

/-- The first is read and the second is refused; blanks around and inside a duration do no harm. -/
theorem longest_read :
    Lexer.tokenize longest = .ok [⟨.duration, "-106751991167d", ⟨1, 1⟩⟩,
      ⟨.duration, "106751991168d", ⟨1, 16⟩⟩, ⟨.eof, "", ⟨1, 29⟩⟩] ∧
    (∃ v : Int64, v.toInt = -9223372036828800000 ∧
      Grammar.value ⟨.eof, "", ⟨1, 29⟩⟩ [⟨.duration, "-106751991167d", ⟨1, 1⟩⟩] =
        .ok (.duration v, [])) ∧
    Grammar.value ⟨.eof, "", ⟨1, 29⟩⟩ [⟨.duration, "106751991168d", ⟨1, 16⟩⟩] =
      .error ⟨.durationText, ⟨.duration, "106751991168d", ⟨1, 16⟩⟩⟩ ∧
    parse "\t-5 ms\n" = .ok (-5) := by
  have tokens : Lexer.tokenize longest = .ok [⟨.duration, "-106751991167d", ⟨1, 1⟩⟩,
      ⟨.duration, "106751991168d", ⟨1, 16⟩⟩, ⟨.eof, "", ⟨1, 29⟩⟩] := by decide +kernel
  have whole (ds : List Char) (some : ds ≠ []) (all : ds.all Char.isDigit = true) :
      Lexer.Digits ds := ⟨some, List.all_eq_true.mp all⟩
  have day : (['d'], 86400000) ∈ factors := by decide
  have least : Spelled "-106751991167d".toList (-9223372036828800000) :=
    .ofParts (.inr rfl) (whole "106751991167".toList (by decide) (by decide)) day
  have above : Spelled "106751991168d".toList 9223372036915200000 :=
    .ofParts (.inl rfl) (whole "106751991168".toList (by decide) (by decide)) day
  have blanks : Text.trim "\t-5 ms\n".toList = ['-'] ++ (['5'] ++ ([' '] ++ ['m', 's'])) := by
    decide
  have gapped : Spelled (['-'] ++ (['5'] ++ ([' '] ++ ['m', 's']))) (number ['-'] ['5'] * 1) :=
    .mk (.inr rfl) (whole ['5'] (by decide) (by decide)) (by simp) (by decide)
  obtain ⟨read, -, values⟩ := reads_exactly
  obtain ⟨millis, spelled, value⟩ := values longest _ _ tokens List.mem_cons_self rfl
  obtain ⟨millis', spelled', value'⟩ :=
    values longest _ _ tokens (List.mem_cons_of_mem _ List.mem_cons_self) rfl
  rw [spelled.unique least] at value
  rw [spelled'.unique above] at value'
  exact ⟨tokens, (value _ _).1 (by decide), (value' _ _).2 (by decide),
    (read _ _).mpr ⟨_, blanks ▸ gapped, by decide, rfl⟩⟩

end Duration

end Workflow
