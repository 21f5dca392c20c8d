import Workflow.Proofs.Conditions
import Workflow.Proofs.Json.Writing

/-!
# Quoted literals

A literal may be quoted, and a quoted literal may have any characters.  Conditions are however
split and clauses cut before the quotes are looked at: a separator inside the quotes splits the
clause, and the mark of the operator that negates is found inside them too, since it is looked
for first.  This is all that can go wrong: a list of clauses is read back from its text exactly
when no compared literal has a separator and no literal compared with `=` has a `!=`.

## Main Definitions

* `Condition.render` — the text of a list of clauses, literals quoted.
* `Clause.WellFormed` — clauses with a key that can be written.
* `Clause.Clear` — clauses whose literal has no mark that is seen through the quotes.

## Main Statements

* `Condition.parse_render_iff` — which clauses are read back.
-/

namespace Workflow

/-! ### Texts of clauses -/

/-- The text of a clause. -/
def Clause.render (c : Clause) : String :=
  match c.operator with
  | .equal => c.key ++ "=" ++ (Json.string c.literal).compact
  | .notEqual => c.key ++ "!=" ++ (Json.string c.literal).compact
  | .present => c.key

/-- The text of a list of clauses. -/
def Condition.render (clauses : List Clause) : String :=
  " && ".intercalate (clauses.map Clause.render)

/-- A key is something, without blanks and without the characters of the marks; letters, digits,
underscores and points will do. -/
structure IsKey (key : String) : Prop where
  /-- It is not empty. -/
  nonempty : key.toList ≠ []
  /-- It has no blank. -/
  solid : ∀ c ∈ key.toList, Text.isBlank c = false
  /-- It has no character of a mark. -/
  noMark : ∀ c ∈ key.toList, c ∉ ['!', '=', '&']

/-- A clause that can be written has a key, and a literal only where one is compared. -/
structure Clause.WellFormed (c : Clause) : Prop where
  /-- The key is one. -/
  isKey : IsKey c.key
  /-- Nothing is compared with the literal of a clause that asks for something. -/
  literal : c.operator = .present → c.literal = ""

/-- No mark is seen through the quotes: no separator, and no `!=` where the operator is `=`. -/
structure Clause.Clear (c : Clause) : Prop where
  /-- There is no separator in the literal. -/
  noSeparator : ¬['&', '&'] <:+: c.literal.toList
  /-- There is no operator that would be found first. -/
  noOperator : c.operator = .equal → ¬['!', '='] <:+: c.literal.toList

/-! ### Marks in a quoted literal -/

namespace Json

/-- A character is written as it stands, or it is none of a mark and neither is its escape. -/
theorem escapeChar_cases (c : Char) : escapeChar c = [c] ∨ c ∉ ['!', '=', '&'] ∧
    ∃ w, escapeChar c = '\\' :: w ∧ ∀ d ∈ w, d ∉ ['!', '=', '&'] := by
  by_cases short : c ∈ ['"', '\\', '\n', '\r', '\t', '\x08', '\x0c']
  · simp only [List.mem_cons, List.not_mem_nil, or_false] at short
    rcases short with rfl | rfl | rfl | rfl | rfl | rfl | rfl <;>
      exact .inr ⟨by decide, _, rfl, by simp⟩
  simp only [List.mem_cons, List.not_mem_nil, or_false, not_or] at short
  obtain ⟨noQuote, noBackslash, noLine, noReturn, noTab, noBack, noFeed⟩ := short
  rw [escapeChar, if_neg noQuote, if_neg noBackslash, if_neg noLine, if_neg noReturn, if_neg noTab,
    if_neg noBack, if_neg noFeed]
  split
  · next control =>
    have digits : ∀ n < 32, hexDigit (n / 16) ∉ ['!', '=', '&'] ∧
        hexDigit (n % 16) ∉ ['!', '=', '&'] := by decide
    have other : c ∉ ['!', '=', '&'] := by
      simp only [List.mem_cons, List.not_mem_nil, or_false]
      rintro (rfl | rfl | rfl) <;> exact absurd control (by decide)
    refine .inr ⟨other, _, rfl, ?_⟩
    simp only [List.forall_mem_cons]
    exact ⟨by decide, by decide, by decide, (digits _ control).1, (digits _ control).2,
      List.forall_mem_nil _⟩
  · exact .inl rfl

variable {pattern : List Char}

theorem prefix_flatMap_escapeChar_iff (marks : ∀ c ∈ pattern, c ∈ ['!', '=', '&'])
    (cs : List Char) : pattern <+: cs.flatMap escapeChar ↔ pattern <+: cs := by
  induction cs generalizing pattern with
  | nil => rfl
  | cons c cs ih =>
      cases pattern with
      | nil => simp only [List.nil_prefix]
      | cons a pattern =>
          rw [List.forall_mem_cons] at marks
          rcases escapeChar_cases c with plain | ⟨other, w, eq, -⟩
          · rw [List.flatMap_cons, plain, List.singleton_append, List.cons_prefix_cons,
              List.cons_prefix_cons, ih marks.2]
          · have noBackslash : a ≠ '\\' := fun eq => absurd (eq ▸ marks.1) (by decide)
            have noOther : a ≠ c := fun eq => other (eq ▸ marks.1)
            simp only [List.flatMap_cons, eq, List.cons_append, List.cons_prefix_cons, noBackslash,
              noOther, false_and]

/-- A mark stands among the characters as they are written exactly when it stands among them. -/
theorem infix_flatMap_escapeChar_iff (marks : ∀ c ∈ pattern, c ∈ ['!', '=', '&'])
    (cs : List Char) : pattern <:+: cs.flatMap escapeChar ↔ pattern <:+: cs := by
  induction cs with
  | nil => rfl
  | cons c cs ih =>
      cases pattern with
      | nil => simp only [List.nil_infix]
      | cons a pattern =>
          rcases escapeChar_cases c with plain | ⟨other, w, eq, escape⟩
          · have front := prefix_flatMap_escapeChar_iff marks (c :: cs)
            rw [List.flatMap_cons, plain, List.singleton_append] at front ⊢
            rw [List.infix_cons_iff, List.infix_cons_iff, front, ih]
          · have mark := (List.forall_mem_cons.mp marks).1
            have apart : a ∉ escapeChar c := by
              rw [eq, List.mem_cons, not_or]
              exact ⟨fun eq => absurd (eq ▸ mark) (by decide), fun mem => escape a mem mark⟩
            have ne : a ≠ c := fun eq => other (eq ▸ mark)
            rw [List.flatMap_cons, Text.infix_append_iff_of_notMem apart, ih,
              Text.infix_cons_iff_of_ne ne]

/-- A mark stands in a quoted text exactly when it stands in the text. -/
theorem infix_writeString_iff {a : Char} (marks : ∀ c ∈ a :: pattern, c ∈ ['!', '=', '&'])
    (s : String) : a :: pattern <:+: writeString s ↔ a :: pattern <:+: s.toList := by
  have apart : '"' ∉ a :: pattern := fun mem => absurd (marks _ mem) (by decide)
  have ne : a ≠ '"' := by
    rintro rfl
    exact apart List.mem_cons_self
  rw [writeString, Text.infix_cons_iff_of_ne ne,
    Text.infix_concat_iff_of_notMem (List.cons_ne_nil _ _) apart,
    infix_flatMap_escapeChar_iff marks]

end Json

/-! ### Reading back one clause -/

namespace Condition

/-- A quoted text ends with a quote. -/
theorem getLast?_writeString (s : String) : (Json.writeString s).getLast? = some '"' := by
  rw [Json.writeString, ← List.cons_append, List.getLast?_concat]

/-- A quoted literal is read back. -/
theorem literal_writeString (s : String) : literal (Json.writeString s) = s := by
  have trimmed : Text.trim (Json.writeString s) = Json.writeString s := by
    refine Text.trim_of_solid (fun c front => ?_) fun c last => ?_
    · cases Option.some.inj front
      rfl
    · cases Option.some.inj ((getLast?_writeString s).symm.trans last)
      rfl
  have read : jsonString? (String.ofList (Json.writeString s)) = some s := by
    rw [jsonString?, show String.ofList (Json.writeString s) = (Json.string s).compact from rfl,
      Json.Plain.parse?_compact (.string s), Option.bind_some, Json.text?]
  rw [literal, trimmed]
  exact (if_pos List.getLast?_concat).trans (by rw [read, Option.getD_some])

variable {cs key value : List Char}

theorem clause_of_notEqual (cut : Text.cut? ['!', '='] cs = some (key, value)) :
    clause cs = ⟨String.ofList (Text.trim key), .notEqual, literal value⟩ := by
  rw [clause, cut]

theorem clause_of_equal (absent : Text.cut? ['!', '='] cs = none)
    (cut : Text.cut? ['='] cs = some (key, value)) :
    clause cs = ⟨String.ofList (Text.trim key), .equal, literal value⟩ := by
  rw [clause, absent, cut]

theorem clause_of_absent (absent : '=' ∉ cs) : clause cs = ⟨String.ofList cs, .present, ""⟩ := by
  have noNotEqual : Text.cut? ['!', '='] cs = none :=
    Text.cut?_eq_none_iff.mpr fun inside => absent (inside.subset (by decide))
  have noEqual : Text.cut? ['='] cs = none :=
    Text.cut?_eq_none_iff.mpr fun inside => absent (inside.subset (by decide))
  rw [clause, noNotEqual, noEqual]

end Condition

namespace IsKey

open Condition

variable {key : String} (isKey : IsKey key)
include isKey

theorem notMem {c : Char} (mark : c ∈ ['!', '=', '&']) : c ∉ key.toList :=
  fun mem => isKey.noMark c mem mark

theorem trim_eq : Text.trim key.toList = key.toList :=
  Text.trim_of_solid (fun c front => isKey.solid c (List.mem_of_mem_head? front))
    fun c last => isKey.solid c (List.mem_of_mem_getLast? last)

theorem inner {c : Char} (mem : c ∈ key.toList) : Inner c :=
  ⟨isKey.solid c mem, fun eq => isKey.noMark c mem (by rw [eq]; decide)⟩

theorem framed : Framed key.toList where
  first := ⟨_, List.head?_eq_some_head isKey.nonempty, isKey.inner (List.head_mem _)⟩
  last := ⟨_, List.getLast?_eq_some_getLast isKey.nonempty, isKey.inner (List.getLast_mem _)⟩

theorem framed_append (mark : List Char) (literal : String) :
    Framed (key.toList ++ (mark ++ Json.writeString literal)) where
  first := by
    obtain ⟨c, front, inner⟩ := isKey.framed.first
    exact ⟨c, by rw [List.head?_append, front, Option.some_or], inner⟩
  last := ⟨'"', by
    rw [List.getLast?_append, List.getLast?_append, getLast?_writeString, Option.some_or,
      Option.some_or], rfl, by decide⟩

end IsKey

namespace Clause

open Condition

theorem toList_render_equal (key literal : String) :
    (render ⟨key, .equal, literal⟩).toList = key.toList ++ (['='] ++ Json.writeString literal) := by
  simp [render, Json.compact, Json.write]

theorem toList_render_notEqual (key literal : String) : (render ⟨key, .notEqual, literal⟩).toList =
    key.toList ++ (['!', '='] ++ Json.writeString literal) := by
  simp [render, Json.compact, Json.write]

variable {c : Clause}

/-- Inside a clause with `=`, the other operator is found in the literal or nowhere. -/
theorem infix_render_equal_iff {key : String} (isKey : IsKey key) (literal : String) :
    ['!', '='] <:+: key.toList ++ (['='] ++ Json.writeString literal) ↔
      ['!', '='] <:+: literal.toList := by
  rw [Text.infix_append_iff_of_notMem (isKey.notMem (by decide)), List.singleton_append,
    Text.infix_cons_iff_of_ne (by decide), Json.infix_writeString_iff (by simp)]

/-- A clause is cut at its operator, unless it is one with `=` and there is a `!=` in the
literal. -/
theorem clause_render_iff (wellFormed : c.WellFormed) : clause c.render.toList = c ↔
    (c.operator = .equal → ¬['!', '='] <:+: c.literal.toList) := by
  obtain ⟨key, operator, literal⟩ := c
  obtain ⟨isKey, unused⟩ := wellFormed
  have noEquals : '=' ∉ key.toList := isKey.notMem (by decide)
  cases operator with
  | equal =>
      simp only [forall_const]
      rw [toList_render_equal, ← infix_render_equal_iff isKey]
      constructor
      · intro read inside
        obtain ⟨⟨before, after⟩, cut⟩ :=
          Option.ne_none_iff_exists'.mp (mt Text.cut?_eq_none_iff.mp (not_not_intro inside))
        rw [clause_of_notEqual cut] at read
        cases congrArg operator read
      · intro absent
        have first : ¬['='] <:+: key.toList ++ ['='].dropLast := fun inside =>
          noEquals (by simpa using inside.subset List.mem_cons_self)
        have cut := Text.cut?_append (by decide) first (Json.writeString literal)
        rw [clause_of_equal (Text.cut?_eq_none_iff.mpr absent) cut, isKey.trim_eq,
          literal_writeString, String.ofList_toList]
  | notEqual =>
      have first : ¬['!', '='] <:+: key.toList ++ ['!'] := fun inside =>
        noEquals (by simpa using inside.subset (List.mem_of_getLast? rfl))
      have cut := Text.cut?_append (by decide) first (Json.writeString literal)
      rw [toList_render_notEqual, clause_of_notEqual cut, isKey.trim_eq, literal_writeString,
        String.ofList_toList]
      simp
  | present =>
      obtain rfl : literal = "" := unused rfl
      rw [render, clause_of_absent noEquals, String.ofList_toList]
      simp

/-- A separator in the text of a clause is one in its literal. -/
theorem separator_infix_render_iff (wellFormed : c.WellFormed) :
    ['&', '&'] <:+: c.render.toList ↔ ['&', '&'] <:+: c.literal.toList := by
  obtain ⟨key, operator, literal⟩ := c
  obtain ⟨isKey, unused⟩ := wellFormed
  have noMark : '&' ∉ key.toList := isKey.notMem (by decide)
  cases operator with
  | equal =>
      rw [toList_render_equal, Text.infix_append_iff_of_notMem noMark,
        Text.infix_append_iff_of_notMem (by decide), Json.infix_writeString_iff (by simp)]
  | notEqual =>
      rw [toList_render_notEqual, Text.infix_append_iff_of_notMem noMark,
        Text.infix_append_iff_of_notMem (by decide), Json.infix_writeString_iff (by simp)]
  | present =>
      obtain rfl : literal = "" := unused rfl
      exact iff_of_false (fun inside => noMark (inside.subset List.mem_cons_self))
        (by simp)

/-- The text of a clause begins with its key and ends with it or a quote. -/
theorem framed_render (wellFormed : c.WellFormed) : Framed c.render.toList := by
  obtain ⟨key, operator, literal⟩ := c
  cases operator with
  | equal =>
      rw [toList_render_equal]
      exact wellFormed.isKey.framed_append _ _
  | notEqual =>
      rw [toList_render_notEqual]
      exact wellFormed.isKey.framed_append _ _
  | present => exact wellFormed.isKey.framed

/-- **Which clauses are read back from their text.** -/
theorem parse_render_eq_singleton_iff (wellFormed : c.WellFormed) :
    parse c.render = [c] ↔ c.Clear := by
  have framed := framed_render wellFormed
  by_cases inside : ['&', '&'] <:+: c.render.toList
  · refine iff_of_false (fun read => ?_)
      fun clear => clear.noSeparator ((separator_infix_render_iff wellFormed).mp inside)
    have many := framed.two_le_length_pieces inside
    have one := congrArg List.length read
    rw [parse_eq, List.length_map, List.length_singleton] at one
    omega
  · rw [parse_eq, framed.pieces_eq inside, List.map_singleton, List.singleton_inj,
      clause_render_iff wellFormed]
    rw [separator_infix_render_iff wellFormed] at inside
    exact ⟨fun noOperator => ⟨inside, noOperator⟩, Clear.noOperator⟩

/-- Something is read from the text of a clause in any case. -/
theorem parse_render_ne_nil (wellFormed : c.WellFormed) : parse c.render ≠ [] := by
  obtain ⟨d, last, inner⟩ := (framed_render wellFormed).last
  rw [parse_eq, ne_eq, List.map_eq_nil_iff]
  exact pieces_ne_nil last inner

end Clause

/-! ### Reading back a list of clauses -/

theorem length_le_length_flatMap {α : Type} {f : α → List α} {xs : List α}
    (some : ∀ x ∈ xs, f x ≠ []) : xs.length ≤ (xs.flatMap f).length := by
  induction xs with
  | nil => exact Nat.le_refl 0
  | cons x xs ih =>
      rw [List.forall_mem_cons] at some
      have pos := List.length_pos_iff.mpr some.1
      have rest := ih some.2
      rw [List.flatMap_cons, List.length_append, List.length_cons]
      omega

/-- A list is put together from parts that are not empty exactly when each part is one of its
items. -/
theorem flatMap_eq_self_iff {α : Type} {f : α → List α} {xs : List α}
    (some : ∀ x ∈ xs, f x ≠ []) : xs.flatMap f = xs ↔ ∀ x ∈ xs, f x = [x] := by
  induction xs with
  | nil => simp
  | cons x xs ih =>
      rw [List.forall_mem_cons] at some ⊢
      rw [List.flatMap_cons, ← ih some.2]
      constructor
      · intro eq
        obtain ⟨y, ys, part⟩ := List.exists_cons_of_ne_nil some.1
        rw [part, List.cons_append, List.cons.injEq] at eq
        obtain ⟨rfl, eq⟩ := eq
        -- the other parts are long enough for the other items
        have enough := length_le_length_flatMap some.2
        have size := congrArg List.length eq
        rw [List.length_append] at size
        obtain rfl : ys = [] := List.length_eq_zero_iff.mp (by omega)
        exact ⟨part, eq⟩
      · rintro ⟨one, rest⟩
        rw [one, rest, List.singleton_append]

namespace Condition

/-- **Clauses are read back from their quoted text** exactly when no mark is seen through the
quotes: no separator in a compared literal, and no `!=` in one compared with `=`.  Everything
else may stand in a literal, quotes, blanks and single ampersands included. -/
theorem parse_render_iff (clauses : List Clause) (wellFormed : ∀ c ∈ clauses, c.WellFormed) :
    parse (render clauses) = clauses ↔ ∀ c ∈ clauses, c.Clear := by
  rw [render, parse_intercalate, List.flatMap_map,
    flatMap_eq_self_iff fun c mem => Clause.parse_render_ne_nil (wellFormed c mem)]
  exact forall₂_congr fun c mem => Clause.parse_render_eq_singleton_iff (wellFormed c mem)

/-- Quotes, blanks, single ampersands and a `!=` behind another are read back. -/
theorem parse_render_greeting :
    parse (render [⟨"done", .present, ""⟩, ⟨"context.msg", .notEqual, "say \"hi\" != \n"⟩,
      ⟨"tail_2", .equal, " a & b = c "⟩]) =
      [⟨"done", .present, ""⟩, ⟨"context.msg", .notEqual, "say \"hi\" != \n"⟩,
        ⟨"tail_2", .equal, " a & b = c "⟩] := by
  have done : IsKey "done" := ⟨by simp, by simp [Text.isBlank], by simp⟩
  have msg : IsKey "context.msg" := ⟨by simp, by simp [Text.isBlank], by simp⟩
  have tail : IsKey "tail_2" := ⟨by simp, by simp [Text.isBlank], by simp⟩
  refine (parse_render_iff _ ?_).mpr ?_
  · simp only [List.forall_mem_cons]
    exact ⟨⟨done, by simp⟩, ⟨msg, by simp⟩, ⟨tail, by simp⟩, List.forall_mem_nil _⟩
  · simp only [List.forall_mem_cons]
    exact ⟨⟨by simp, by simp⟩, ⟨by simp; decide, by simp⟩, ⟨by simp; decide, by simp; decide⟩,
      List.forall_mem_nil _⟩

/-- A separator in the quotes splits the clause, and a `!=` in them is taken for the operator. -/
theorem marks_seen_through_quotes :
    Clause.WellFormed ⟨"k", .equal, "a && b"⟩ ∧ Clause.WellFormed ⟨"k", .equal, "a!=b"⟩ ∧
      parse (render [⟨"k", .equal, "a && b"⟩]) =
        [⟨"k", .equal, "\"a"⟩, ⟨"b\"", .present, ""⟩] ∧
      parse (render [⟨"k", .equal, "a!=b"⟩]) = [⟨"k=\"a", .notEqual, "b\""⟩] := by
  have isKey : IsKey "k" := ⟨by simp, by simp [Text.isBlank], by simp⟩
  refine ⟨⟨isKey, by simp⟩, ⟨isKey, by simp⟩, ?separator, ?operator⟩
  case separator =>
    have text : (render [⟨"k", .equal, "a && b"⟩]).toList =
        ['k', '=', '"', 'a', ' ', '&', '&', ' ', 'b', '"'] := by
      simp [render, Clause.render, Json.compact, Json.write, Json.writeString, Json.escapeChar]
    have cut : Text.cut? ['&', '&'] ['k', '=', '"', 'a', ' ', '&', '&', ' ', 'b', '"'] =
        some (['k', '=', '"', 'a', ' '], [' ', 'b', '"']) := by decide
    have absent : ¬['&', '&'] <:+: [' ', 'b', '"'] := by decide
    rw [parse_eq, text, pieces_of_cut? cut, pieces_of_absent absent]
    decide
  case operator =>
    have text : (render [⟨"k", .equal, "a!=b"⟩]).toList =
        ['k', '=', '"', 'a', '!', '=', 'b', '"'] := by
      simp [render, Clause.render, Json.compact, Json.write, Json.writeString, Json.escapeChar]
    have absent : ¬['&', '&'] <:+: ['k', '=', '"', 'a', '!', '=', 'b', '"'] := by decide
    rw [parse_eq, text, pieces_of_absent absent]
    decide

end Condition

end Workflow
