import Mathlib.Data.List.TakeWhile
import Workflow.Proofs.Lexer.Lexeme
import Workflow.Proofs.Splitting

/-!
# Pieces are what they are said to be

A piece that is found at the front of a text says what it is and how many characters it
takes.  This file proves that the characters it takes are trivia, or spell the token that it
names: one lemma for each scanner, and from them one for the front of any text.

## Main Definitions

* `Lexer.Piece.Sound` — the characters of a piece are what its content says.
* `Lexer.Unsigned` — the digits of a number, with or without a fraction.

## Main Statements

* `Lexer.sound_of_piece_eq_ok` — every piece that is found is sound.
-/

namespace Workflow.Lexer

/-- The characters of a piece at the front of `c :: cs` are what its content says. -/
def Piece.Sound (p : Piece) (c : Char) (cs : List Char) : Prop :=
  match p.content with
  | .trivia => Skip (c :: cs.take p.more) (cs.drop p.more)
  | .lexeme kind value => Lexeme kind value (c :: cs.take p.more)

section Sound

variable {c : Char} {cs l rest : List Char}

theorem sound_of_skip {more : Nat} (eq : c :: cs = l ++ rest) (size : l.length = more + 1)
    (skip : Skip l rest) : Piece.Sound ⟨.trivia, more⟩ c cs := by
  cases l with
  | nil => cases size
  | cons d l =>
      obtain ⟨rfl, rfl⟩ := List.cons_eq_cons.mp eq
      obtain rfl : l.length = more := Nat.succ.inj size
      simpa [Piece.Sound] using skip

theorem sound_of_lexeme {kind : Kind} {value : String} (eq : c :: cs = l ++ rest)
    (spelled : Lexeme kind value l) : Piece.Sound ⟨.lexeme kind value, l.length - 1⟩ c cs := by
  cases l with
  | nil => exact absurd rfl spelled.ne_nil
  | cons d l =>
      obtain ⟨rfl, rfl⟩ := List.cons_eq_cons.mp eq
      simpa [Piece.Sound] using spelled

end Sound

/-! ### Marks and words -/

theorem sound_punctuation {kind : Kind} {c : Char} (known : (kind, c) ∈ marks) (cs : List Char) :
    (Piece.punctuation kind c).Sound c cs :=
  sound_of_lexeme (l := [c]) rfl (.mark known)

theorem sound_word {c : Char} (first : isWordStart c = true) (cs : List Char) :
    (word c cs).Sound c cs := by
  have split : c :: cs = (c :: cs.takeWhile isWordPart) ++ cs.dropWhile isWordPart := by
    rw [List.cons_append, List.takeWhile_append_dropWhile]
  refine sound_of_lexeme split ?_
  cases known : Kind.keyword? (String.ofList (c :: cs.takeWhile isWordPart)) with
  | some kind => exact .keyword known
  | none => exact .identifier first (fun d mem => List.mem_takeWhile_imp mem) known

/-! ### Numbers -/

/-- The digits of a number, with or without a fraction. -/
inductive Unsigned : List Char → Prop
  | whole {digits : List Char} (whole : Digits digits) : Unsigned digits
  | float {digits fraction : List Char} (whole : digits = [] ∨ Digits digits)
      (decimals : Digits fraction) : Unsigned (digits ++ '.' :: fraction)

/-- The digits at the front of a text are nothing but digits, if there are any. -/
theorem digits_takeWhile (cs : List Char) :
    cs.takeWhile Char.isDigit = [] ∨ Digits (cs.takeWhile Char.isDigit) := by
  by_cases empty : cs.takeWhile Char.isDigit = []
  · exact .inl empty
  · exact .inr ⟨empty, fun d mem => List.mem_takeWhile_imp mem⟩

/-- What is taken from the front of a text is an unsigned number, if it is anything. -/
theorem unsigned_decimalDigits (cs : List Char) :
    decimalDigits cs <+: cs ∧ (decimalDigits cs = [] ∨ Unsigned (decimalDigits cs)) := by
  have whole := digits_takeWhile cs
  unfold decimalDigits
  split
  · next rest behind =>
      dsimp only
      split
      · exact ⟨List.takeWhile_prefix _, whole.imp_right .whole⟩
      · next fraction =>
        have split : cs = cs.takeWhile Char.isDigit ++ '.' :: rest := by
          rw [← behind, List.takeWhile_append_dropWhile]
        constructor
        · conv => rhs; rw [split]
          exact (List.prefix_append_right_inj _).mpr
            (List.cons_prefix_cons.mpr ⟨rfl, List.takeWhile_prefix _⟩)
        · exact .inr (.float whole ((digits_takeWhile rest).resolve_left fraction))
  · exact ⟨List.takeWhile_prefix _, whole.imp_right .whole⟩

theorem unsigned_unsignedNumber (cs : List Char) :
    unsignedNumber cs <+: cs ∧ (unsignedNumber cs = [] ∨ Unsigned (unsignedNumber cs)) := by
  unfold unsignedNumber
  split
  · next cs =>
      dsimp only
      split
      · exact ⟨List.nil_prefix, .inl rfl⟩
      · next fraction =>
        refine ⟨List.cons_prefix_cons.mpr ⟨rfl, List.takeWhile_prefix _⟩, .inr ?_⟩
        have decimals := (digits_takeWhile cs).resolve_left fraction
        exact (.float (.inl rfl) decimals : Unsigned ([] ++ '.' :: cs.takeWhile Char.isDigit))
  · exact unsigned_decimalDigits cs

/-- The unit that is found is known, and stands at the front. -/
theorem unit?_eq_some {cs u : List Char} (found : unit? cs = some u) : u ∈ units ∧ u <+: cs := by
  unfold unit? at found
  split at found
  · cases found
  · next first =>
      have known := List.mem_of_find?_eq_some first
      have stands := List.find?_some first
      obtain ⟨rest, after⟩ := Option.isSome_iff_exists.mp stands
      have front : _ <+: cs := ⟨rest, (Text.after?_eq_some_iff.mp after).symm⟩
      split at found
      · cases found
        exact ⟨known, front⟩
      · split at found
        · cases found
        · cases found
          exact ⟨known, front⟩

theorem Digits.point_notMem {ds : List Char} (digits : Digits ds) : '.' ∉ ds := fun mem =>
  absurd (digits.2 _ mem) (by decide)

/-- The value of a float begins with a digit. -/
theorem floatValue_eq {sign digits fraction : List Char} (signed : IsSign sign)
    (whole : digits = [] ∨ Digits digits) :
    floatValue (sign ++ digits ++ '.' :: fraction) =
      sign ++ (if digits = [] then ['0'] else digits) ++ '.' :: fraction := by
  cases digits with
  | nil => rcases signed with rfl | rfl <;> rfl
  | cons d ds =>
      have digit : d.isDigit = true := (whole.resolve_left (List.cons_ne_nil d ds)).2 d (by simp)
      have noPoint : d ≠ '.' := by
        rintro rfl
        cases digit
      have noDash : d ≠ '-' := by
        rintro rfl
        cases digit
      rcases signed with rfl | rfl <;> simp [floatValue, noPoint, noDash]

/-- The piece of a signed number that stands in front of `rest`. -/
theorem sound_numberPiece {c : Char} {cs sign number rest : List Char} (signed : IsSign sign)
    (unsigned : Unsigned number) (eq : c :: cs = sign ++ number ++ rest) :
    (numberPiece (sign ++ number) rest).Sound c cs := by
  have noPoint : '.' ∉ sign := by rcases signed with rfl | rfl <;> decide
  unfold numberPiece
  -- a point makes a float of it; only without one a unit may follow
  cases unsigned with
  | whole digits =>
      rw [if_neg (by simp [noPoint, digits.point_notMem])]
      split
      · next u found =>
          obtain ⟨known, rest, rfl⟩ := unit?_eq_some found
          have spelled := Lexeme.duration signed digits known
          have sound := sound_of_lexeme (eq.trans (List.append_assoc ..).symm) spelled
          rwa [List.length_append] at sound
      · exact sound_of_lexeme eq (.integer signed digits)
  | float whole decimals =>
      rw [if_pos (by simp)]
      rw [← List.append_assoc] at eq ⊢
      rw [floatValue_eq signed whole]
      exact sound_of_lexeme eq (.float signed whole decimals)

theorem sound_number {c : Char} {cs : List Char} {p : Piece} (read : number c cs = .ok p) :
    p.Sound c cs := by
  unfold number at read
  -- a dash is a sign, and then the number stands behind it
  by_cases dash : c = '-'
  · obtain ⟨⟨rest, front⟩, spelled⟩ := unsigned_unsignedNumber cs
    cases found : unsignedNumber cs with
    | nil => simp [dash, found] at read
    | cons d ds =>
        rw [found] at front spelled
        have eq : c :: cs = ['-'] ++ d :: ds ++ rest := by simp [dash, ← front]
        simp only [if_pos dash, found, eq] at read
        rw [if_neg (List.cons_ne_nil _ _), ← List.singleton_append, List.drop_left] at read
        cases read
        exact sound_numberPiece (.inr rfl) (spelled.resolve_left (List.cons_ne_nil d ds)) eq
  · obtain ⟨⟨rest, front⟩, spelled⟩ := unsigned_unsignedNumber (c :: cs)
    simp only [if_neg dash] at read
    generalize unsignedNumber (c :: cs) = ds at front spelled read
    split at read
    · cases read
    · next nonempty =>
        rw [← front, List.drop_left] at read
        cases read
        exact sound_numberPiece (.inl rfl) (spelled.resolve_left nonempty) front.symm

/-! ### Strings -/

/-- A result that was mapped comes from a result. -/
theorem exists_of_map_eq_ok {α β : Type} {r : Except Refusal α} {f : α → β} {b : β}
    (h : r.map f = .ok b) : ∃ a, r = .ok a ∧ f a = b := by
  cases r with
  | error refusal => cases h
  | ok a => exact ⟨a, rfl, Except.ok.inj h⟩

theorem mem_escapes {c value : Char} (known : escape? c = some value) : (c, value) ∈ escapes := by
  unfold escape? at known
  split at known <;> cases known <;> decide

/-- A character that stands for itself is no backslash: that would have been read together with
what follows it, be it the closing quote. -/
theorem ne_backslash {c : Char} {cs : List Char}
    (noEscape : ∀ d ds, c = '\\' → cs = d :: ds → False) (nonempty : cs ≠ []) : c ≠ '\\' := by
  obtain ⟨d, ds, rfl⟩ := List.exists_cons_of_ne_nil nonempty
  exact fun backslash => noEscape d ds backslash rfl

/-- What is read up to a quote is the text that is written there. -/
theorem escaped_of_stringFrom {offset size : Nat} {cs text : List Char}
    (read : stringFrom offset cs = .ok (text, size)) :
    ∃ body rest, cs = body ++ '"' :: rest ∧ Escaped body text ∧
      size = offset + body.length + 1 := by
  fun_induction stringFrom offset cs generalizing text size with
  | case1 | case3 | case5 => cases read
  | case2 offset rest =>
      cases read
      exact ⟨[], rest, rfl, .nil, rfl⟩
  | case4 offset c cs value known ih =>
      obtain ⟨⟨others, size⟩, found, eq⟩ := exists_of_map_eq_ok read
      cases eq
      obtain ⟨body, rest, rfl, escaped, rfl⟩ := ih found
      refine ⟨'\\' :: c :: body, rest, rfl, .escape (mem_escapes known) escaped, ?_⟩
      simp only [List.length_cons]
      omega
  | case6 offset c cs noQuote noEnd noEscape ih =>
      obtain ⟨⟨others, size⟩, found, eq⟩ := exists_of_map_eq_ok read
      cases eq
      obtain ⟨body, rest, rfl, escaped, rfl⟩ := ih found
      have noBackslash := ne_backslash noEscape (by simp)
      refine ⟨c :: body, rest, rfl, .plain noQuote noBackslash escaped, ?_⟩
      simp only [List.length_cons]
      omega

theorem sound_stringPiece {cs : List Char} {p : Piece} (read : stringPiece cs = .ok p) :
    p.Sound '"' cs := by
  obtain ⟨⟨text, size⟩, found, rfl⟩ := exists_of_map_eq_ok read
  obtain ⟨body, rest, rfl, escaped, rfl⟩ := escaped_of_stringFrom found
  have split : '"' :: (body ++ '"' :: rest) = '"' :: (body ++ ['"']) ++ rest := by simp
  have sound := sound_of_lexeme split (.string escaped)
  simpa [Nat.add_comm] using sound

/-! ### Comments -/

theorem sound_comment {cs : List Char} {p : Piece} (read : comment cs = .ok p) :
    p.Sound '/' cs := by
  unfold comment at read
  split at read
  · next rest =>
      cases read
      have split : '/' :: '/' :: rest = ('/' :: '/' :: rest.takeWhile (· != '\n')) ++
          rest.dropWhile (· != '\n') := by simp
      refine sound_of_skip split (by simp [Nat.add_comm]) (.line ?_ ?_)
      · intro mem
        simpa using List.mem_takeWhile_imp mem
      · intro c first
        have stopped := List.head?_dropWhile_not (· != '\n') rest
        rw [Option.mem_def.mp first] at stopped
        simpa using stopped
  · next rest =>
      split at read
      · next before after cut =>
          cases read
          have split : '/' :: '*' :: rest = ('/' :: '*' :: (before ++ ['*', '/'])) ++ after := by
            rw [Text.cut?_eq_append cut]
            simp
          refine sound_of_skip split ?_ (.block (Text.not_infix_of_cut? cut (by simp)))
          simp only [List.length_cons, List.length_append, List.length_nil]
          omega
      · cases read
  · cases read

/-! ### Any piece -/

theorem sound_dash {cs : List Char} {p : Piece} (read : dash cs = .ok p) : p.Sound '-' cs := by
  unfold dash at read
  split at read
  · next rest =>
      cases read
      exact sound_of_lexeme (l := ['-', '>']) rfl .arrow
  · cases read
  · exact sound_number read

theorem sound_point {cs : List Char} {p : Piece} (read : point cs = .ok p) : p.Sound '.' cs := by
  have mark : (Piece.punctuation .dot '.').Sound '.' cs := sound_punctuation (by decide) cs
  unfold point at read
  split at read
  · split at read
    · exact sound_number read
    · cases read
      exact mark
  · cases read
    exact mark

/-- **Every piece that is found is sound.** -/
theorem sound_of_piece_eq_ok {c : Char} {cs : List Char} {p : Piece} (read : piece c cs = .ok p) :
    p.Sound c cs := by
  have mark {kind : Kind} (known : (kind, c) ∈ marks)
      (eq : Except.ok (Piece.punctuation kind c) = (Except.ok p : Except Refusal Piece)) :
      p.Sound c cs := Except.ok.inj eq ▸ sound_punctuation known cs
  unfold piece at read
  split at read
  -- quotes, dashes, points and slashes have scanners of their own, and marks are left for the end
  case h_8 => exact sound_stringPiece read
  case h_9 => exact sound_dash read
  case h_10 => exact sound_point read
  case h_11 => exact sound_comment read
  case h_12 =>
    split at read
    · next blank =>
        cases read
        exact sound_of_skip (l := [c]) rfl rfl (.blank blank)
    · split at read
      · exact sound_number read
      · split at read
        · next first =>
            cases read
            exact sound_word first cs
        · cases read
  all_goals exact mark (by decide) read

end Workflow.Lexer
