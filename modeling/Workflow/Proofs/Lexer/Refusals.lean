import Workflow.Proofs.Lexer.Spelling
import Workflow.Proofs.Lexer.Tiling

/-!
# Where a text is refused

A text that cannot be read into tokens is refused at one of its characters, and all that
stands in front of this character can be read.  For an escape that does not exist this
character is the quote that opens the string, and the place that is reported lies inside.

The scanners look ahead, so it is not enough that they came that far: they might take what is
in front of the character for something else once the text is cut off there.  They do not.
A character where a text is refused is neither a part of a word or a number nor a point, and
in front of any other the scanners do what they do at the end of a text.

## Main Definitions

* `Lexer.Refused` — the first character of a piece that is refused, or an escape in it.

## Main Statements

* `Lexer.piece_of_append` — a piece stays what it is when the text is cut off behind it.
* `Lexer.refused_of_tokensFrom` — what is in front of a text that is refused can be read.
* `Lexer.tokenize_refused` — the place of a failure.

## Design Notes

For a scanner `x`, `x_append_of_ends` says that it finds the same without the text `b` behind
the cut.  Arrows, strings and comments go on over characters that end words and numbers, so
`x_of_append` asks for a piece that is found in front of the cut.
-/

namespace Workflow.Lexer

section Cut

variable {a b : List Char}

/-! ### Words and numbers -/

theorem word_append_of_ends (ends : Ends b) (c : Char) (a : List Char) :
    word c (a ++ b) = word c a := by
  unfold word
  rw [Text.takeWhile_append_left fun d front => (ends d front).1]

theorem decimalDigits_append_of_ends (ends : Ends b) (a : List Char) :
    decimalDigits (a ++ b) = decimalDigits a := by
  unfold decimalDigits
  rw [Text.takeWhile_append_left ends.noDigit, Text.dropWhile_append_left ends.noDigit]
  cases a.dropWhile Char.isDigit with
  | nil =>
      rw [List.nil_append]
      split
      · exact absurd rfl (ends '.' rfl).2
      · rfl
  | cons d rest =>
      by_cases point : d = '.'
      · subst point
        simp only [List.cons_append, Text.takeWhile_append_left ends.noDigit]
      · simp [point]

theorem unsignedNumber_append_of_ends (ends : Ends b) (a : List Char) :
    unsignedNumber (a ++ b) = unsignedNumber a := by
  cases a with
  | nil =>
      rw [List.nil_append, unsignedNumber_eq_decimalDigits fun c front => (ends c front).2]
      exact decimalDigits_append_of_ends ends []
  | cons c a =>
      by_cases point : c = '.'
      · subst point
        simp only [List.cons_append, unsignedNumber, Text.takeWhile_append_left ends.noDigit]
      · have whole (cs : List Char) : unsignedNumber (c :: cs) = decimalDigits (c :: cs) := by
          refine unsignedNumber_eq_decimalDigits fun d front => ?_
          cases front
          exact point
        rw [List.cons_append, whole, whole]
        exact decimalDigits_append_of_ends ends (c :: a)

/-- The letter of a unit is not behind the cut, and neither is one that would continue it. -/
theorem unit?_append_of_ends (ends : Ends b) (a : List Char) : unit? (a ++ b) = unit? a := by
  have letters : units.all (·.all isWordPart) = true := rfl
  have after {u : List Char} (known : u ∈ units) :
      Text.after? u (a ++ b) = (Text.after? u a).map (· ++ b) := by
    refine Text.after?_append (fun c front mem => ?_) a
    have letter := List.all_eq_true.mp (List.all_eq_true.mp letters u known) c mem
    rw [(ends c front).1] at letter
    cases letter
  have first : (units.find? fun u => (Text.after? u (a ++ b)).isSome) =
      units.find? fun u => (Text.after? u a).isSome := by
    rw [← List.head?_filter, ← List.head?_filter]
    exact congrArg List.head?
      (List.filter_congr fun u known => by rw [after known, Option.isSome_map])
  unfold unit?
  rw [first]
  split
  · rfl
  · next u found =>
      have stands := List.find?_some found
      obtain ⟨rest, front⟩ := Option.isSome_iff_exists.mp stands
      obtain rfl := Text.after?_eq_some_iff.mp front
      rw [List.append_assoc, List.drop_left, List.drop_left]
      cases rest with
      | nil =>
          cases b with
          | nil => rfl
          | cons c b => exact if_neg (by simp [(ends c rfl).1])
      | cons c rest => rfl

theorem numberPiece_append_of_ends (ends : Ends b) (text a : List Char) :
    numberPiece text (a ++ b) = numberPiece text a := by
  unfold numberPiece
  rw [unit?_append_of_ends ends]

theorem number_append_of_ends (ends : Ends b) (c : Char) (a : List Char) :
    number c (a ++ b) = number c a := by
  -- what is taken for the number stands in front of the cut
  have behind {text : List Char} (front : text <+: c :: a) :
      numberPiece text ((c :: (a ++ b)).drop text.length) =
        numberPiece text ((c :: a).drop text.length) := by
    rw [← List.cons_append, List.drop_append_of_le_length front.length_le,
      numberPiece_append_of_ends ends]
  unfold number
  by_cases dash : c = '-'
  · subst dash
    have front := (unsigned_unsignedNumber a).1
    rw [unsignedNumber_append_of_ends ends]
    cases digits : unsignedNumber a with
    | nil => rfl
    | cons d ds =>
        rw [digits] at front
        have signed : '-' :: d :: ds <+: '-' :: a := List.cons_prefix_cons.mpr ⟨rfl, front⟩
        simp only [if_pos, behind signed]
  · have front := (unsigned_unsignedNumber (c :: a)).1
    have same := unsignedNumber_append_of_ends ends (c :: a)
    rw [List.cons_append] at same
    simp only [if_neg dash, same, behind front]

/-! ### Pieces in front of the cut -/

theorem dash_of_append {p : Piece} (ends : Ends b) (read : dash (a ++ b) = .ok p)
    (within : p.more ≤ a.length) : dash a = .ok p := by
  have digits := number_append_of_ends ends '-' a
  cases a with
  | nil =>
      unfold dash at read
      split at read
      · -- the second character of an arrow would stand behind the cut
        cases read
        exact absurd within (by decide)
      · cases read
      · exact digits.symm.trans read
  | cons d a =>
      by_cases arrow : d = '>'
      · subst arrow
        exact read
      by_cases two : d = '-'
      · subst two
        exact read
      have signed (cs : List Char) : dash (d :: cs) = number '-' (d :: cs) := by
        simp [dash, arrow, two]
      rw [List.cons_append, signed, ← List.cons_append, digits] at read
      rwa [signed]

theorem point_append_of_ends (ends : Ends b) (a : List Char) : point (a ++ b) = point a := by
  cases a with
  | nil => exact point_eq_dot ends
  | cons d a => rw [List.cons_append, point, point, ← List.cons_append, number_append_of_ends ends]

theorem stringPiece_of_append {p : Piece} (read : stringPiece (a ++ b) = .ok p)
    (within : p.more ≤ a.length) : stringPiece a = .ok p := by
  obtain ⟨⟨text, size⟩, found, rfl⟩ := exists_of_map_eq_ok read
  obtain ⟨body, rest, split, escaped, rfl⟩ := escaped_of_stringFrom found
  have front : body ++ ['"'] <+: a := by
    refine List.prefix_of_prefix_length_le ⟨rest, ?_⟩ (List.prefix_append a b) ?_
    · rw [split, List.append_assoc, List.singleton_append]
    · simpa [Nat.add_comm] using within
  obtain ⟨rest, rfl⟩ := front
  rw [List.append_assoc, List.singleton_append, stringPiece, stringFrom_eq_ok escaped]
  rfl

theorem content_of_comment {cs : List Char} {p : Piece} (read : comment cs = .ok p) :
    p.content = .trivia := by
  unfold comment at read
  split at read
  · cases read
    rfl
  · split at read
    · cases read
      rfl
    · cases read
  · cases read

/-- Trivia is found up to its last character, whatever follows it. -/
theorem trivia_of_append {c : Char} {more : Nat}
    (read : piece c (a ++ b) = .ok ⟨.trivia, more⟩) (within : more ≤ a.length) :
    piece c a = .ok ⟨.trivia, more⟩ := by
  have skip : Skip (c :: (a ++ b).take more) ((a ++ b).drop more) := sound_of_piece_eq_ok read
  rw [List.take_append_of_le_length within, List.drop_append_of_le_length within] at skip
  have found := piece_of_skip skip.of_append (cons_eq_take_append_drop c a more)
  rwa [List.length_cons, List.length_take_of_le within, Nat.add_sub_cancel] at found

/-- **A piece stays what it is** when the text is cut off behind it, in front of a character that
continues nothing. -/
theorem piece_of_append {c : Char} {content : Content} {more : Nat} (ends : Ends b)
    (read : piece c (a ++ b) = .ok ⟨content, more⟩) (within : more ≤ a.length) :
    piece c a = .ok ⟨content, more⟩ := by
  cases content with
  | trivia => exact trivia_of_append read within
  | lexeme kind value =>
      unfold piece at read
      split at read
      case h_8 => exact stringPiece_of_append read within
      case h_9 => exact dash_of_append ends read within
      case h_10 => exact (point_append_of_ends ends a).symm.trans read
      case h_11 => cases content_of_comment read
      case h_12 =>
        split at read
        · cases read
        · split at read
          · next digit =>
              rw [number_append_of_ends ends] at read
              rwa [piece_of_isDigit digit]
          · split at read
            · next first =>
                rw [word_append_of_ends ends] at read
                rwa [piece_of_isWordStart first]
            · cases read
      -- the others are marks, and these are single characters
      all_goals exact read

end Cut

/-! ### Refused pieces -/

/-- How the text `c :: cs` is refused: at its first character, or for an escape in the string that
begins there. -/
inductive Refused : Char → List Char → Refusal → Prop
  | first {c : Char} {cs : List Char} {flaw : Flaw} (noEscape : ∀ d, flaw ≠ .badEscape d) :
      Refused c cs ⟨flaw, 0⟩
  /-- The backslash stands behind the quote and what could be read of the string. -/
  | escape {d : Char} {inside text rest : List Char} (escaped : Escaped inside text)
      (unknown : escape? d = none) :
      Refused '"' (inside ++ '\\' :: d :: rest) ⟨.badEscape d, inside.length + 1⟩

section Refused

variable {c : Char} {cs : List Char} {r : Refusal}

theorem error_of_map_eq_error {α β : Type} {x : Except Refusal α} {f : α → β}
    (h : x.map f = .error r) : x = .error r := by
  cases x with
  | error refusal =>
      cases h
      rfl
  | ok a => cases h

/-- What could be read in front of an escape that does not exist. -/
theorem refused_of_stringFrom {offset : Nat} (read : stringFrom offset cs = .error r) :
    r = ⟨.openString, 0⟩ ∨ ∃ inside text d rest, cs = inside ++ '\\' :: d :: rest ∧
      Escaped inside text ∧ escape? d = none ∧ r = ⟨.badEscape d, offset + inside.length⟩ := by
  fun_induction stringFrom offset cs with
  | case1 | case3 =>
      cases read
      exact .inl rfl
  | case2 => cases read
  | case4 offset c cs value known ih =>
      rcases ih (error_of_map_eq_error read) with
        rfl | ⟨inside, text, d, rest, rfl, escaped, unknown, rfl⟩
      · exact .inl rfl
      · refine .inr ⟨'\\' :: c :: inside, value :: text, d, rest, rfl,
          .escape (mem_escapes known) escaped, unknown, ?_⟩
        rw [List.length_cons, List.length_cons, Nat.add_assoc, Nat.add_comm 2]
  | case5 offset c cs unknown =>
      cases read
      exact .inr ⟨[], [], c, cs, rfl, .nil, unknown, rfl⟩
  | case6 offset c cs noQuote noEnd noEscape ih =>
      rcases ih (error_of_map_eq_error read) with
        rfl | ⟨inside, text, d, rest, rfl, escaped, unknown, rfl⟩
      · exact .inl rfl
      · have noBackslash := ne_backslash noEscape (by simp)
        refine .inr ⟨c :: inside, c :: text, d, rest, rfl, .plain noQuote noBackslash escaped,
          unknown, ?_⟩
        rw [List.length_cons, Nat.add_assoc, Nat.add_comm 1]

theorem refused_of_number (read : number c cs = .error r) : Refused c cs r := by
  unfold number at read
  split at read
  all_goals
    dsimp only at read
    split at read
    · cases read
      exact .first (by simp)
    · cases read

theorem refused_of_stringPiece (read : stringPiece cs = .error r) : Refused '"' cs r := by
  rcases refused_of_stringFrom (error_of_map_eq_error read) with
    rfl | ⟨inside, text, d, rest, rfl, escaped, unknown, rfl⟩
  · exact .first (by simp)
  · rw [Nat.add_comm]
    exact .escape escaped unknown

theorem refused_of_dash (read : dash cs = .error r) : Refused '-' cs r := by
  unfold dash at read
  split at read
  · cases read
  · cases read
    exact .first (by simp)
  · exact refused_of_number read

theorem refused_of_point (read : point cs = .error r) : Refused '.' cs r := by
  unfold point at read
  split at read
  · split at read
    · exact refused_of_number read
    · cases read
  · cases read

theorem refused_of_comment (read : comment cs = .error r) : Refused '/' cs r := by
  unfold comment at read
  split at read
  · cases read
  · split at read
    · cases read
    · cases read
      exact .first (by simp)
  · cases read
    exact .first (by simp)

/-- Every refusal is one of these. -/
theorem refused_of_piece_eq_error (read : piece c cs = .error r) : Refused c cs r := by
  unfold piece at read
  split at read
  case h_8 => exact refused_of_stringPiece read
  case h_9 => exact refused_of_dash read
  case h_10 => exact refused_of_point read
  case h_11 => exact refused_of_comment read
  case h_12 =>
    split at read
    · cases read
    · split at read
      · exact refused_of_number read
      · split at read
        · cases read
        · cases read
          exact .first (by simp)
  all_goals cases read

/-- A digit begins a number. -/
theorem number_ne_error_of_isDigit (digit : c.isDigit = true) : number c cs ≠ .error r := by
  have noDash : c ≠ '-' := by
    rintro rfl
    cases digit
  have digits : unsignedNumber (c :: cs) ≠ [] := by
    rw [unsignedNumber_of_isDigit digit, decimalDigits, List.takeWhile_cons_of_pos digit]
    split
    · dsimp only
      split <;> simp
    · simp
  simp [number, noDash, digits]

/-- A point in front of a digit begins a number. -/
theorem number_ne_error_of_point {d : Char} (digit : d.isDigit = true) :
    number '.' (d :: cs) ≠ .error r := by
  simp [number, unsignedNumber, List.takeWhile_cons_of_pos digit]

/-- A text is not refused at a character that continues a word or a number. -/
theorem ends_of_piece_eq_error (read : piece c cs = .error r) : Ends (c :: cs) := by
  intro d front
  cases front
  constructor
  · refine Bool.eq_false_iff.mpr fun part => ?_
    have begins : isWordStart c = true ∨ c.isDigit = true := by
      simp only [isWordPart, Char.isAlphanum, Bool.or_eq_true] at part
      simp only [isWordStart, Bool.or_eq_true]
      tauto
    rcases begins with letter | digit
    · rw [piece_of_isWordStart letter] at read
      cases read
    · rw [piece_of_isDigit digit] at read
      exact number_ne_error_of_isDigit digit read
  · rintro rfl
    have read : point cs = .error r := read
    unfold point at read
    split at read
    · split at read
      · next digit => exact number_ne_error_of_point digit read
      · cases read
    · cases read

end Refused

/-! ### Whole texts -/

/-- **What stands in front of a text that is refused can be read.** -/
theorem refused_of_tokensFrom {before cs : List Char} {f : Failure}
    (read : tokensFrom (.behind before) cs = .error f) :
    ∃ front c rest r, cs = front ++ c :: rest ∧ piece c rest = .error r ∧
      (∀ p, ∃ tokens, tokensFrom p front = .ok tokens) ∧
      f = ⟨r.flaw, .behind (before ++ front ++ (c :: rest).take r.offset)⟩ := by
  -- over the pieces in front of the refused one, `before` being what was read already
  generalize here : Position.behind before = p at read
  fun_induction tokensFrom p cs generalizing before f with
  | case1 => cases read
  | case4 | case5 => cases read
  | case2 p c cs r refused =>
      cases read
      subst here
      exact ⟨[], c, cs, r, rfl, refused, fun p => ⟨_, by rw [tokensFrom]⟩,
        by rw [List.append_nil, Position.after_behind]⟩
  | case3 p c cs content more found failure others ih =>
      cases read
      subst here
      obtain ⟨front, d, rest, r, split, refused, readable, rfl⟩ :=
        ih (Position.after_behind before _).symm others
      have text : cs = (cs.take more ++ front) ++ d :: rest := by
        rw [List.append_assoc, ← split, List.take_append_drop]
      have within : more ≤ cs.length := by
        by_contra beyond
        rw [List.drop_eq_nil_of_le (by omega)] at split
        exact List.append_ne_nil_of_right_ne_nil front (List.cons_ne_nil d rest) split.symm
      -- the piece that was read does not depend on what is refused
      have same : piece c (cs.take more ++ front) = .ok ⟨content, more⟩ := by
        refine piece_of_append (b := d :: rest) (ends_of_piece_eq_error refused) (text ▸ found) ?_
        rw [List.length_append, List.length_take_of_le within]
        exact Nat.le_add_right more _
      have taken : ∀ e es, e :: es = (c :: cs.take more) ++ front →
          piece e es = .ok ⟨content, (c :: cs.take more).length - 1⟩ := by
        intro e es eq
        obtain ⟨rfl, rfl⟩ := List.cons.inj eq
        rw [List.length_cons, List.length_take_of_le within]
        exact same
      refine ⟨(c :: cs.take more) ++ front, d, rest, r, ?_, refused, fun p => ?_, ?_⟩
      · rw [List.cons_append, List.cons_append, ← text]
      · obtain ⟨tokens, behind⟩ := readable (p.after (c :: cs.take more))
        exact ⟨_, tokensFrom_append (List.cons_ne_nil _ _) taken behind⟩
      · simp only [List.append_assoc]

/-- **Failures are localised.**  The place that is reported is that of a character of the text.  For
an escape that does not exist this is the backslash, inside a string that begins behind a text that
can be read; for anything else the text in front of the character can be read, and what begins there
cannot. -/
theorem tokenize_refused {source : String} {f : Failure} (read : tokenize source = .error f) :
    ∃ before c behind, source.toList = before ++ c :: behind ∧ f.position = .behind before ∧
      ((∀ d, f.flaw ≠ .badEscape d) →
        (∃ tokens, tokenize (String.ofList before) = .ok tokens) ∧
          piece c behind = .error ⟨f.flaw, 0⟩) ∧
      ∀ d, f.flaw = .badEscape d → c = '\\' ∧ behind.head? = some d ∧ escape? d = none ∧
        ∃ outside inside text, before = outside ++ '"' :: inside ∧ Escaped inside text ∧
          (∃ tokens, tokenize (String.ofList outside) = .ok tokens) ∧
          piece '"' (inside ++ c :: behind) = .error ⟨f.flaw, inside.length + 1⟩ := by
  have read : tokensFrom (.behind []) source.toList = .error f := read
  obtain ⟨front, c, rest, r, split, refused, readable, rfl⟩ := refused_of_tokensFrom read
  have outside : ∃ tokens, tokenize (String.ofList front) = .ok tokens := by
    rw [tokenize, String.toList_ofList]
    exact readable .start
  rw [split]
  cases refused_of_piece_eq_error refused with
  | first noEscape =>
      exact ⟨front, c, rest, rfl, by simp, fun _ => ⟨outside, refused⟩,
        fun d escape => absurd escape (noEscape d)⟩
  | @escape d inside text rest escaped unknown =>
      refine ⟨front ++ '"' :: inside, '\\', d :: rest, by simp, ?_, fun noEscape => ?_, ?_⟩
      · simp
      · exact absurd rfl (noEscape d)
      · rintro _ ⟨rfl⟩
        exact ⟨rfl, rfl, unknown, front, inside, text, rfl, escaped, outside, refused⟩

/-- Two dashes behind a duration; what stands in front of them is a text of its own. -/
def twoDashes : String := "a 10m--b"

/-- An escape that does not exist, in the second line. -/
def oddEscape : String := "k=\n \"t\\n\\q\""

/-- The text is cut at the dashes, and at the quote in front of the escape. -/
theorem twoDashes_oddEscape_refused :
    tokenize twoDashes = .error ⟨.undirectedEdge, ⟨1, 6⟩⟩ ∧
      tokenize oddEscape = .error ⟨.badEscape 'q', ⟨2, 6⟩⟩ ∧
      (∃ before c behind, twoDashes.toList = before ++ c :: behind ∧
        Position.behind before = ⟨1, 6⟩ ∧
        ∃ tokens, tokenize (String.ofList before) = .ok tokens) ∧
      ∃ outside inside behind, oddEscape.toList = outside ++ '"' :: (inside ++ '\\' :: behind) ∧
        Position.behind (outside ++ '"' :: inside) = ⟨2, 6⟩ ∧
        ∃ tokens, tokenize (String.ofList outside) = .ok tokens := by
  have dashes : tokenize twoDashes = .error ⟨.undirectedEdge, ⟨1, 6⟩⟩ := by decide +kernel
  have escape : tokenize oddEscape = .error ⟨.badEscape 'q', ⟨2, 6⟩⟩ := by decide +kernel
  refine ⟨dashes, escape, ?_, ?_⟩
  · obtain ⟨before, c, behind, text, place, other, -⟩ := tokenize_refused dashes
    exact ⟨before, c, behind, text, place.symm, (other (by simp)).1⟩
  · obtain ⟨before, c, behind, text, place, -, string⟩ := tokenize_refused escape
    obtain ⟨rfl, -, -, outside, inside, -, rfl, -, readable, -⟩ := string 'q' rfl
    exact ⟨outside, inside, behind, text.trans (by simp), place.symm, readable⟩

end Workflow.Lexer
