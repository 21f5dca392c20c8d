import Workflow.Proofs.Lexer.Pieces
import Workflow.Proofs.Splitting

/-!
# What is spelled is read

Every lexeme is found as one piece, and so is every blank and every comment: the scanners
take all of it and nothing of what follows.  For a lexeme this needs a word about what
follows it.  A letter would continue a word or make a duration of a number, and a point
would make a fraction of it; where neither follows, nothing else can happen.

## Main Definitions

* `Lexer.Ends` — nothing is continued by what follows.
* `Lexer.Spells` — the characters that spell a list of kinds and values.

## Main Statements

* `Lexer.piece_of_lexeme`, `Lexer.piece_of_skip` — every lexeme and every piece of trivia is
  found as one.
* `Lexer.tokensFrom_of_spells` — what is spelled is read.

## Design Notes

For a scanner `x`, `x_eq_ok` says what it finds at the front of `l ++ rest` when `l` is
spelled as it expects.  The place of a token plays no part: a text spells kinds and values.
-/

namespace Workflow

/-- What a token says, apart from its place. -/
def Token.content (t : Token) : Kind × String := (t.kind, t.value)

namespace Lexer

/-- What follows continues no word and no number, and makes no number of a point. -/
def Ends (rest : List Char) : Prop := ∀ c ∈ rest.head?, isWordPart c = false ∧ c ≠ '.'

/-! ### First characters -/

section Characters

variable {c : Char}

theorem isWordPart_of_isDigit (digit : c.isDigit = true) : isWordPart c = true := by
  simp [isWordPart, Char.isAlphanum, digit]

/-- Words begin with a letter or an underscore. -/
theorem isWordStart_iff : isWordStart c = true ↔
    ((65 ≤ c.toNat ∧ c.toNat ≤ 90) ∨ (97 ≤ c.toNat ∧ c.toNat ≤ 122)) ∨ c = '_' := by
  show ((decide (65 ≤ c.val ∧ c.val ≤ 90) || (decide (97 ≤ c.val) && decide (c.val ≤ 122))) ||
    c == '_') = true ↔ _
  simp only [Bool.or_eq_true, Bool.and_eq_true, decide_eq_true_eq, beq_iff_eq,
    UInt32.le_iff_toNat_le]
  rfl

/-- Words begin neither with a blank nor with a digit. -/
theorem not_of_isWordStart (first : isWordStart c = true) :
    Text.isBlank c = false ∧ c.isDigit = false := by
  rcases isWordStart_iff.mp first with letter | rfl
  · constructor
    · simp only [Text.isBlank, Bool.or_eq_false_iff, Bool.and_eq_false_imp, decide_eq_true_eq,
        decide_eq_false_iff_not, beq_eq_false_iff_ne]
      omega
    · by_contra digit
      simp only [Char.isDigit, Bool.not_eq_false, Bool.and_eq_true, decide_eq_true_eq, ge_iff_le,
        UInt32.le_iff_toNat_le] at digit
      change 48 ≤ c.toNat ∧ c.toNat ≤ 57 at digit
      omega
  · decide

/-- No part of a word is blank. -/
theorem isBlank_of_isWordPart (part : isWordPart c = true) : Text.isBlank c = false := by
  simp only [isWordPart, Char.isAlphanum, Bool.or_eq_true] at part
  rcases part with (letter | digit) | underscore
  · exact (not_of_isWordStart (by simp [isWordStart, letter])).1
  · exact Text.isBlank_of_isDigit digit
  · exact (not_of_isWordStart (by simp [isWordStart, underscore])).1

theorem piece_of_isWordStart (first : isWordStart c = true) (cs : List Char) :
    piece c cs = .ok (word c cs) := by
  obtain ⟨solid, noDigit⟩ := not_of_isWordStart first
  unfold piece
  split
  case h_12 => simp [solid, noDigit, first]
  all_goals exact absurd first (by decide)

theorem piece_of_isDigit (digit : c.isDigit = true) (cs : List Char) :
    piece c cs = number c cs := by
  unfold piece
  split
  case h_12 => simp [Text.isBlank_of_isDigit digit, digit]
  all_goals exact absurd digit (by decide)

end Characters

section Ends

variable {rest : List Char}

/-- What follows a number is not one more digit of it. -/
theorem Ends.noDigit (ends : Ends rest) : ∀ c ∈ rest.head?, c.isDigit = false := by
  refine fun c front => Bool.eq_false_iff.mpr fun digit => ?_
  have other := (ends c front).1
  rw [isWordPart_of_isDigit digit] at other
  cases other

/-- Blanks and comments end whatever stands in front of them. -/
theorem Skip.ends {a : List Char} (skip : Skip a rest) : Ends (a ++ rest) := by
  intro c front
  cases skip with
  | @blank c _ blank =>
      cases front
      constructor
      · refine Bool.eq_false_iff.mpr fun part => ?_
        rw [isBlank_of_isWordPart part] at blank
        cases blank
      · rintro rfl
        exact absurd blank (by decide)
  | line | block =>
      cases front
      decide

end Ends

/-! ### Words -/

/-- A word is taken as a whole, and is a keyword if it spells one. -/
theorem piece_of_word {c : Char} {cs rest : List Char} (first : isWordStart c = true)
    (others : ∀ d ∈ cs, isWordPart d = true) (ends : Ends rest) : piece c (cs ++ rest) =
      .ok ⟨.lexeme ((Kind.keyword? (String.ofList (c :: cs))).getD .identifier)
        (String.ofList (c :: cs)), cs.length⟩ := by
  have tail : (cs ++ rest).takeWhile isWordPart = cs :=
    Text.takeWhile_append_of_ends others fun d front => (ends d front).1
  rw [piece_of_isWordStart first]
  simp only [word, tail]

/-- The keywords are words. -/
theorem word_of_keyword? {kind : Kind} {cs : List Char}
    (known : Kind.keyword? (String.ofList cs) = some kind) :
    ∃ c ds, cs = c :: ds ∧ isWordStart c = true ∧ ∀ d ∈ ds, isWordPart d = true := by
  have spelled {w : String} (eq : String.ofList cs = w) : cs = w.toList := by
    rw [← eq, String.toList_ofList]
  unfold Kind.keyword? at known
  split at known
  case h_8 => cases known
  all_goals
    next eq =>
      rw [spelled eq]
      exact ⟨_, _, rfl, rfl, List.all_eq_true.mp rfl⟩

/-! ### Numbers -/

/-- The digits of a number are all taken, where neither a digit nor a point follows. -/
theorem decimalDigits_eq {digits rest : List Char} (whole : ∀ d ∈ digits, d.isDigit = true)
    (noDigit : ∀ c ∈ rest.head?, c.isDigit = false) (noPoint : ∀ c ∈ rest.head?, c ≠ '.') :
    decimalDigits (digits ++ rest) = digits := by
  unfold decimalDigits
  rw [Text.takeWhile_append_of_ends whole noDigit, Text.dropWhile_append_of_ends whole noDigit]
  split
  · next behind => exact absurd rfl (noPoint '.' rfl)
  · rfl

/-- The digits of a fraction are all taken, where no digit follows. -/
theorem decimalDigits_fraction {digits fraction rest : List Char}
    (whole : ∀ d ∈ digits, d.isDigit = true) (decimals : Digits fraction)
    (noDigit : ∀ c ∈ rest.head?, c.isDigit = false) :
    decimalDigits (digits ++ '.' :: (fraction ++ rest)) = digits ++ '.' :: fraction := by
  have point : ∀ c ∈ ('.' :: (fraction ++ rest)).head?, c.isDigit = false := by
    intro c front
    cases front
    decide
  unfold decimalDigits
  rw [Text.takeWhile_append_of_ends whole point, Text.dropWhile_append_of_ends whole point]
  simp only [Text.takeWhile_append_of_ends decimals.2 noDigit, if_neg decimals.1]

/-- A number that does not begin with a point begins with its digits. -/
theorem unsignedNumber_eq_decimalDigits {cs : List Char} (noPoint : ∀ c ∈ cs.head?, c ≠ '.') :
    unsignedNumber cs = decimalDigits cs := by
  unfold unsignedNumber
  split
  · exact absurd rfl (noPoint '.' rfl)
  · rfl

theorem unsignedNumber_of_isDigit {d : Char} (digit : d.isDigit = true) (ds : List Char) :
    unsignedNumber (d :: ds) = decimalDigits (d :: ds) := by
  refine unsignedNumber_eq_decimalDigits fun c front => ?_
  cases front
  rintro rfl
  cases digit

/-- An unsigned number is taken as a whole. -/
theorem unsignedNumber_eq {number rest : List Char} (unsigned : Unsigned number)
    (noDigit : ∀ c ∈ rest.head?, c.isDigit = false) (noPoint : ∀ c ∈ rest.head?, c ≠ '.') :
    unsignedNumber (number ++ rest) = number := by
  cases unsigned with
  | whole digits =>
      obtain ⟨d, ds, rfl⟩ := List.exists_cons_of_ne_nil digits.1
      have taken := decimalDigits_eq digits.2 noDigit noPoint
      rwa [List.cons_append, unsignedNumber_of_isDigit (digits.2 d List.mem_cons_self)]
  | @float digits fraction whole decimals =>
      cases digits with
      | nil =>
          simp only [List.nil_append, List.cons_append, unsignedNumber,
            Text.takeWhile_append_of_ends decimals.2 noDigit, if_neg decimals.1]
      | cons d ds =>
          have digits := (whole.resolve_left (List.cons_ne_nil d ds)).2
          have taken := decimalDigits_fraction digits decimals noDigit
          rw [List.append_assoc, List.cons_append,
            unsignedNumber_of_isDigit (digits d List.mem_cons_self)]
          exact taken

/-- A number begins with a digit, or with a point and a digit. -/
theorem Unsigned.exists_cons {number : List Char} (unsigned : Unsigned number) :
    ∃ c cs, number = c :: cs ∧
      (c.isDigit = true ∨ c = '.' ∧ ∃ d ds, cs = d :: ds ∧ d.isDigit = true) := by
  have first {ds : List Char} (digits : Digits ds) : ∃ e es, ds = e :: es ∧ e.isDigit = true := by
    obtain ⟨e, es, rfl⟩ := List.exists_cons_of_ne_nil digits.1
    exact ⟨e, es, rfl, digits.2 e List.mem_cons_self⟩
  cases unsigned with
  | whole digits =>
      obtain ⟨d, ds, rfl, digit⟩ := first digits
      exact ⟨d, ds, rfl, .inl digit⟩
  | @float digits fraction whole decimals =>
      rcases whole with rfl | digits
      · exact ⟨'.', fraction, rfl, .inr ⟨rfl, first decimals⟩⟩
      · obtain ⟨d, ds, rfl, digit⟩ := first digits
        exact ⟨d, _, rfl, .inl digit⟩

/-- A number without a sign does not begin with a dash, nor does it make one an arrow. -/
theorem Unsigned.head_ne {c : Char} {cs : List Char} (unsigned : Unsigned (c :: cs)) :
    c ≠ '-' ∧ c ≠ '>' := by
  obtain ⟨_, _, eq, first⟩ := unsigned.exists_cons
  obtain ⟨rfl, -⟩ := List.cons.inj eq
  constructor <;> rintro rfl <;> rcases first with digit | ⟨point, -⟩ <;> contradiction

/-- A signed number is taken as a whole. -/
theorem number_eq_ok {c : Char} {cs sign digits rest : List Char} (signed : IsSign sign)
    (unsigned : Unsigned digits) (noDigit : ∀ c ∈ rest.head?, c.isDigit = false)
    (noPoint : ∀ c ∈ rest.head?, c ≠ '.') (eq : c :: cs = sign ++ (digits ++ rest)) :
    number c cs = .ok (numberPiece (sign ++ digits) rest) := by
  have taken := unsignedNumber_eq unsigned noDigit noPoint
  obtain ⟨d, ds, rfl, -⟩ := unsigned.exists_cons
  unfold number
  rcases signed with rfl | rfl
  · obtain ⟨same, -⟩ := List.cons.inj eq
    have noDash : c ≠ '-' := same ▸ unsigned.head_ne.1
    simp only [if_neg noDash, eq, List.nil_append, taken, if_neg (List.cons_ne_nil d ds),
      List.drop_left]
  · obtain ⟨rfl, rfl⟩ := List.cons.inj eq
    rw [List.cons_append] at taken
    simp [taken]

/-- A known unit is taken where no word goes on behind it. -/
theorem unit?_append {u rest : List Char} (known : u ∈ units) (ends : Ends rest) :
    unit? (u ++ rest) = some u := by
  -- a shorter unit is not taken for a longer one: the letter that is missing does not follow
  have noS : Text.after? ['s'] rest = none := by
    cases rest with
    | nil => rfl
    | cons c rest =>
        refine if_neg ?_
        rintro rfl
        exact absurd (ends 's' rfl).1 (by decide)
  have first : (units.find? fun v => (Text.after? v (u ++ rest)).isSome) = some u := by
    simp only [units, List.mem_cons, List.not_mem_nil, or_false] at known
    rcases known with rfl | rfl | rfl | rfl | rfl <;> simp [units, Text.after?, noS]
  unfold unit?
  rw [first]
  simp only [List.drop_left]
  cases rest with
  | nil => rfl
  | cons c rest => exact if_neg (by simp [(ends c rfl).1])

/-- Without a letter there is no unit. -/
theorem unit?_eq_none {rest : List Char} (ends : Ends rest) : unit? rest = none := by
  have none : (units.find? fun v => (Text.after? v rest).isSome) = none := by
    cases rest with
    | nil => rfl
    | cons c rest =>
        have other {d : Char} (letter : isWordPart d = true) : d ≠ c := by
          rintro rfl
          rw [(ends d rfl).1] at letter
          cases letter
        have m : 'm' ≠ c := other (by decide)
        have s : 's' ≠ c := other (by decide)
        have h : 'h' ≠ c := other (by decide)
        have d : 'd' ≠ c := other (by decide)
        simp [units, Text.after?, m, s, h, d]
  rw [unit?, none]

theorem IsSign.point_notMem {sign : List Char} (signed : IsSign sign) : '.' ∉ sign := by
  rcases signed with rfl | rfl <;> decide

/-- Digits are taken for an integer. -/
theorem numberPiece_integer {sign digits rest : List Char} (signed : IsSign sign)
    (whole : Digits digits) (ends : Ends rest) : numberPiece (sign ++ digits) rest =
      ⟨.lexeme .integer (String.ofList (sign ++ digits)), (sign ++ digits).length - 1⟩ := by
  rw [numberPiece, if_neg (by simp [signed.point_notMem, whole.point_notMem]), unit?_eq_none ends]

/-- Digits with a unit behind them are taken for a duration. -/
theorem numberPiece_duration {sign digits unit rest : List Char} (signed : IsSign sign)
    (whole : Digits digits) (known : unit ∈ units) (ends : Ends rest) :
    numberPiece (sign ++ digits) (unit ++ rest) =
      ⟨.lexeme .duration (String.ofList (sign ++ digits ++ unit)),
        (sign ++ digits ++ unit).length - 1⟩ := by
  rw [numberPiece, if_neg (by simp [signed.point_notMem, whole.point_notMem]),
    unit?_append known ends]
  simp only [List.length_append]

/-- Digits with a point and a fraction are taken for a float. -/
theorem numberPiece_float {sign digits fraction : List Char} (rest : List Char)
    (signed : IsSign sign) (whole : digits = [] ∨ Digits digits) :
    numberPiece (sign ++ (digits ++ '.' :: fraction)) rest =
      ⟨.lexeme .float
        (String.ofList (sign ++ (if digits = [] then ['0'] else digits) ++ '.' :: fraction)),
        (sign ++ digits ++ '.' :: fraction).length - 1⟩ := by
  rw [numberPiece, if_pos (by simp), ← List.append_assoc, floatValue_eq signed whole]

/-! ### Strings -/

theorem escape?_of_mem {c value : Char} (known : (c, value) ∈ escapes) :
    escape? c = some value := by
  simp only [escapes, List.mem_cons, Prod.mk.injEq, List.not_mem_nil, or_false] at known
  rcases known with ⟨rfl, rfl⟩ | ⟨rfl, rfl⟩ | ⟨rfl, rfl⟩ | ⟨rfl, rfl⟩ <;> rfl

theorem stringFrom_plain {c : Char} (noQuote : c ≠ '"') (noBackslash : c ≠ '\\') (offset : Nat)
    (cs : List Char) : stringFrom offset (c :: cs) =
      (stringFrom (offset + 1) cs).map fun (text, size) => (c :: text, size) := by
  rw [stringFrom]
  · exact noQuote
  · exact fun backslash _ => noBackslash backslash
  · exact fun _ _ backslash _ => noBackslash backslash

/-- The text that is written between two quotes is read up to the second. -/
theorem stringFrom_eq_ok {body text : List Char} (escaped : Escaped body text) (offset : Nat)
    (rest : List Char) :
    stringFrom offset (body ++ '"' :: rest) = .ok (text, offset + body.length + 1) := by
  induction escaped generalizing offset with
  | nil => rfl
  | @plain c body text noQuote noBackslash _ ih =>
      rw [List.cons_append, stringFrom_plain noQuote noBackslash]
      simp only [ih (offset + 1), Except.map, List.length_cons, Except.ok.injEq, Prod.mk.injEq,
        true_and]
      omega
  | @escape c value body text known _ ih =>
      rw [List.cons_append, List.cons_append, stringFrom, escape?_of_mem known]
      simp only [ih (offset + 2), Except.map, List.length_cons, Except.ok.injEq, Prod.mk.injEq,
        true_and]
      omega

/-! ### Comments -/

/-- The first mark that closes a comment is found where it stands. -/
theorem cut?_of_not_infix {text : List Char} (inside : ¬['*', '/'] <:+: text) (rest : List Char) :
    Text.cut? ['*', '/'] (text ++ '*' :: '/' :: rest) = some (text, rest) := by
  -- the star of the mark does not close it
  have noSlash : '/' ≠ '*' := by decide
  have first : ¬['*'] ++ ['/'] <:+: text ++ ['*'] :=
    mt (Text.infix_concat_iff_of_ne noSlash).mp inside
  exact Text.cut?_append (List.cons_ne_nil _ _) first rest

theorem comment_line {text rest : List Char} (inside : '\n' ∉ text)
    (ends : ∀ c ∈ rest.head?, c = '\n') :
    comment ('/' :: (text ++ rest)) = .ok ⟨.trivia, text.length + 1⟩ := by
  have line : (text ++ rest).takeWhile (· != '\n') = text := by
    refine Text.takeWhile_append_of_ends (fun c mem => ?_) fun c front => ?_
    · simpa using fun eq : c = '\n' => inside (eq ▸ mem)
    · simp [ends c front]
  simp only [comment, line, Nat.add_comm]

theorem comment_block {text : List Char} (inside : ¬['*', '/'] <:+: text) (rest : List Char) :
    comment ('*' :: (text ++ '*' :: '/' :: rest)) = .ok ⟨.trivia, text.length + 3⟩ := by
  simp only [comment, cut?_of_not_infix inside rest, Nat.add_comm 1]

/-! ### Pieces -/

theorem point_eq_dot {rest : List Char} (ends : Ends rest) :
    point rest = .ok (.punctuation .dot '.') := by
  cases rest with
  | nil => rfl
  | cons c rest => exact if_neg (by simp [ends.noDigit c rfl])

theorem piece_of_mark {kind : Kind} {c : Char} {rest : List Char} (known : (kind, c) ∈ marks)
    (ends : Ends rest) : piece c rest = .ok (.punctuation kind c) := by
  simp only [marks, List.mem_cons, Prod.mk.injEq, List.not_mem_nil, or_false] at known
  rcases known with ⟨rfl, rfl⟩ | ⟨rfl, rfl⟩ | ⟨rfl, rfl⟩ | ⟨rfl, rfl⟩ | ⟨rfl, rfl⟩ | ⟨rfl, rfl⟩ |
    ⟨rfl, rfl⟩ | ⟨rfl, rfl⟩
  case inr.inr.inr.inr.inr.inr.inr => exact point_eq_dot ends
  all_goals rfl

/-- What begins with a number is read as one. -/
theorem piece_eq_number {c : Char} {cs sign digits rest : List Char} (signed : IsSign sign)
    (unsigned : Unsigned digits) (eq : c :: cs = sign ++ (digits ++ rest)) :
    piece c cs = number c cs := by
  rcases signed with rfl | rfl
  · obtain ⟨d, ds, rfl, first⟩ := unsigned.exists_cons
    obtain ⟨rfl, rfl⟩ := List.cons.inj eq
    rcases first with digit | ⟨rfl, e, es, rfl, digit⟩
    · exact piece_of_isDigit digit _
    · exact if_pos digit
  · obtain ⟨rfl, rfl⟩ := List.cons.inj eq
    obtain ⟨d, ds, rfl, -⟩ := unsigned.exists_cons
    obtain ⟨noDash, noArrow⟩ := unsigned.head_ne
    show dash (d :: (ds ++ rest)) = _
    unfold dash
    split
    · next eq => exact absurd (List.cons.inj eq).1 noArrow
    · next eq => exact absurd (List.cons.inj eq).1 noDash
    · rfl

/-- **Every lexeme is found as one piece**, whatever ends it. -/
theorem piece_of_lexeme {kind : Kind} {value : String} {c : Char} {cs l rest : List Char}
    (spelled : Lexeme kind value l) (ends : Ends rest) (eq : c :: cs = l ++ rest) :
    piece c cs = .ok ⟨.lexeme kind value, l.length - 1⟩ := by
  have noPoint : ∀ d ∈ rest.head?, d ≠ '.' := fun d front => (ends d front).2
  cases spelled with
  | mark known =>
      obtain ⟨rfl, rfl⟩ := List.cons.inj eq
      exact piece_of_mark known ends
  | arrow =>
      obtain ⟨rfl, rfl⟩ := List.cons.inj eq
      rfl
  | @keyword kind word known =>
      obtain ⟨d, ds, rfl, first, others⟩ := word_of_keyword? known
      obtain ⟨rfl, rfl⟩ := List.cons.inj eq
      refine (piece_of_word first others ends).trans ?_
      rw [known]
      rfl
  | identifier first others noKeyword =>
      obtain ⟨rfl, rfl⟩ := List.cons.inj eq
      refine (piece_of_word first others ends).trans ?_
      rw [noKeyword]
      rfl
  | integer signed whole =>
      rw [List.append_assoc] at eq
      rw [piece_eq_number signed (.whole whole) eq,
        number_eq_ok signed (.whole whole) ends.noDigit noPoint eq,
        numberPiece_integer signed whole ends]
  | @duration sign digits unit signed whole known =>
      rw [List.append_assoc, List.append_assoc] at eq
      -- the unit ends the digits, and is no point
      have letter : ∀ d ∈ (unit ++ rest).head?, d.isDigit = false ∧ d ≠ '.' := by
        simp only [units, List.mem_cons, List.not_mem_nil, or_false] at known
        rcases known with rfl | rfl | rfl | rfl | rfl <;> simp
      rw [piece_eq_number signed (.whole whole) eq,
        number_eq_ok signed (.whole whole) (fun d front => (letter d front).1)
          (fun d front => (letter d front).2) eq,
        numberPiece_duration signed whole known ends]
  | @float sign digits fraction signed whole decimals =>
      rw [List.append_assoc sign, List.append_assoc sign] at eq
      rw [piece_eq_number signed (.float whole decimals) eq,
        number_eq_ok signed (.float whole decimals) ends.noDigit noPoint eq,
        numberPiece_float rest signed whole]
  | @string body text escaped =>
      obtain ⟨rfl, rfl⟩ := List.cons.inj eq
      show stringPiece (body ++ ['"'] ++ rest) = _
      rw [List.append_assoc, List.singleton_append, stringPiece, stringFrom_eq_ok escaped]
      simp [Except.map, Nat.add_comm]

/-- **Every blank and every comment is found as one piece.** -/
theorem piece_of_skip {c : Char} {cs a rest : List Char} (skip : Skip a rest)
    (eq : c :: cs = a ++ rest) : piece c cs = .ok ⟨.trivia, a.length - 1⟩ := by
  cases skip with
  | blank blank =>
      obtain ⟨rfl, rfl⟩ := List.cons.inj eq
      unfold piece
      split
      case h_12 => simp [blank]
      all_goals exact absurd blank (by decide)
  | line inside ends =>
      obtain ⟨rfl, rfl⟩ := List.cons.inj eq
      exact comment_line inside ends
  | @block text _ inside =>
      obtain ⟨rfl, rfl⟩ := List.cons.inj eq
      show comment ('*' :: (text ++ ['*', '/'] ++ rest)) = _
      rw [List.append_assoc]
      simpa using comment_block inside rest

/-! ### Whole texts -/

/-- The characters spell a list of kinds and values, with trivia anywhere between them. -/
inductive Spells : List Char → List (Kind × String) → Prop
  /-- There is nothing left. -/
  | nil : Spells [] []
  /-- A blank or a comment. -/
  | skip {a rest : List Char} {items : List (Kind × String)} (trivia : Skip a rest)
      (others : Spells rest items) : Spells (a ++ rest) items
  /-- A lexeme that ends where it ends. -/
  | lexeme {kind : Kind} {value : String} {l rest : List Char} {items : List (Kind × String)}
      (spelled : Lexeme kind value l) (ends : Ends rest) (others : Spells rest items) :
      Spells (l ++ rest) ((kind, value) :: items)

/-- The tokens of a piece that stands at `p`. -/
def Content.tokens (p : Position) : Content → List Token
  | .trivia => []
  | .lexeme kind value => [⟨kind, value, p⟩]

/-- One step of the reader: the piece at the front, and the tokens behind it. -/
theorem tokensFrom_append {content : Content} {l rest : List Char} {p : Position}
    {tokens : List Token} (nonempty : l ≠ [])
    (found : ∀ c cs, c :: cs = l ++ rest → piece c cs = .ok ⟨content, l.length - 1⟩)
    (behind : tokensFrom (p.after l) rest = .ok tokens) :
    tokensFrom p (l ++ rest) = .ok (content.tokens p ++ tokens) := by
  obtain ⟨c, cs, rfl⟩ := List.exists_cons_of_ne_nil nonempty
  rw [List.cons_append, tokensFrom, found c (cs ++ rest) rfl]
  simp only [List.length_cons, Nat.add_sub_cancel, List.take_left, List.drop_left, behind]
  cases content <;> rfl

theorem Skip.ne_nil {a rest : List Char} (skip : Skip a rest) : a ≠ [] := by
  cases skip <;> simp

/-- No lexeme spells the end of a text. -/
theorem Lexeme.kind_ne_eof {kind : Kind} {value : String} {l : List Char}
    (spelled : Lexeme kind value l) : kind ≠ .eof := by
  cases spelled with
  | mark known =>
      rintro rfl
      simp [marks] at known
  | @keyword kind word known =>
      rintro rfl
      unfold Kind.keyword? at known
      split at known <;> cases known
  | arrow | identifier | integer | duration | float | string => simp

/-- **What is spelled is read**, wherever it begins: there is a token for each item and one `eof`
behind them all. -/
theorem tokensFrom_of_spells {cs : List Char} {items : List (Kind × String)}
    (spells : Spells cs items) (p : Position) :
    ∃ tokens stop, tokensFrom p cs = .ok (tokens ++ [stop]) ∧ stop.content = (.eof, "") ∧
      tokens.map (·.content) = items ∧ ∀ t ∈ tokens, t.kind ≠ .eof := by
  induction spells generalizing p with
  | nil => exact ⟨[], ⟨.eof, "", p⟩, by rw [tokensFrom]; rfl, rfl, rfl, by simp⟩
  | @skip a rest items trivia _ ih =>
      obtain ⟨tokens, stop, read, isEnd, same, inside⟩ := ih (p.after a)
      exact ⟨tokens, stop, tokensFrom_append trivia.ne_nil (fun _ _ => piece_of_skip trivia) read,
        isEnd, same, inside⟩
  | @lexeme kind value l rest items spelled ends _ ih =>
      obtain ⟨tokens, stop, read, isEnd, same, inside⟩ := ih (p.after l)
      refine ⟨⟨kind, value, p⟩ :: tokens, stop,
        tokensFrom_append spelled.ne_nil (fun _ _ => piece_of_lexeme spelled ends) read, isEnd,
        by rw [List.map_cons, same]; rfl, ?_⟩
      exact List.forall_mem_cons.mpr ⟨spelled.kind_ne_eof, inside⟩

end Lexer

end Workflow
