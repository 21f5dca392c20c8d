import Workflow.Condition
import Workflow.Proofs.Splitting

/-!
# Conditions are conjunctions

The clauses of two conditions joined by `&&` are those of the one and then those of the other.
A single ampersand at the end of the first would bring the cut forward if it stood next to the
separator; a blank between them keeps it where it was meant.

## Main Statements

* `Condition.parse_join` — the clauses of two texts joined.
* `Condition.parse_intercalate` — the clauses of any number of texts joined.
* `Condition.holds_intercalate` — the texts joined hold exactly when each of them does.
-/

namespace Workflow.Condition

open Text

/-! ### The pieces of a text -/

theorem separator_ne_nil : ['&', '&'] ≠ [] := List.cons_ne_nil _ _

/-- What stands between the separators, without blanks. -/
def pieces (cs : List Char) : List (List Char) :=
  ((split ['&', '&'] separator_ne_nil cs).map trim).filter (· ≠ [])

theorem parse_eq (text : String) : parse text = (pieces text.toList).map clause := rfl

variable {cs before after : List Char}

theorem pieces_of_absent (absent : ¬['&', '&'] <:+: cs) :
    pieces cs = [trim cs].filter (· ≠ []) := by
  rw [pieces, split_of_absent absent, List.map_singleton]

@[simp] theorem pieces_nil : pieces [] = [] := pieces_of_absent (by decide)

theorem pieces_of_cut? (cut : cut? ['&', '&'] cs = some (before, after)) :
    pieces cs = [trim before].filter (· ≠ []) ++ pieces after := by
  rw [pieces, split_of_cut? cut, List.map_cons, ← List.singleton_append, List.filter_append,
    pieces]

/-- The pieces of two texts with a separator between them, when the first does not end with half
a separator. -/
theorem pieces_append {x : List Char} (ends : ∀ c ∈ x.getLast?, c ≠ '&') (y : List Char) :
    pieces (x ++ (['&', '&'] ++ y)) = pieces x ++ pieces y := by
  have parts : split ['&', '&'] separator_ne_nil (x ++ (['&', '&'] ++ y)) = _ :=
    split_append (by simpa using ends) y
  rw [pieces, parts, List.map_append, List.filter_append, pieces, pieces]

theorem ne_ampersand_of_isBlank {c : Char} (blank : isBlank c = true) : c ≠ '&' := by
  rintro rfl
  cases blank

/-- A blank in front of a text leaves its pieces as they are. -/
theorem pieces_cons_of_blank {c : Char} (blank : isBlank c = true) (cs : List Char) :
    pieces (c :: cs) = pieces cs := by
  have apart : after? ['&', '&'] (c :: cs) = none := if_neg (ne_ampersand_of_isBlank blank).symm
  cases found : cut? ['&', '&'] cs with
  | none =>
      have absent : cut? ['&', '&'] (c :: cs) = none := by rw [cut?, apart, found]; rfl
      rw [pieces_of_absent (cut?_eq_none_iff.mp absent),
        pieces_of_absent (cut?_eq_none_iff.mp found), trim_cons_of_blank blank]
  | some parts =>
      have cut : cut? ['&', '&'] (c :: cs) = some (c :: parts.1, parts.2) := by
        rw [cut?, apart, found]; rfl
      rw [pieces_of_cut? cut, pieces_of_cut? found, trim_cons_of_blank blank]

/-- A blank behind a text leaves its pieces as they are. -/
theorem pieces_concat_of_blank {c : Char} (blank : isBlank c = true) (cs : List Char) :
    pieces (cs ++ [c]) = pieces cs := by
  fun_induction split ['&', '&'] separator_ne_nil cs with
  | case1 cs found =>
      have absent : ¬['&', '&'] <:+: cs ++ [c] := by
        rw [infix_concat_iff_of_notMem (by decide)
          (by simpa using ne_ampersand_of_isBlank blank)]
        exact cut?_eq_none_iff.mp found
      rw [pieces_of_absent absent, pieces_of_absent (cut?_eq_none_iff.mp found),
        trim_concat_of_blank blank]
  | case2 cs before after found _ ih =>
      rw [pieces_of_cut? (cut?_append_right (by decide) found [c]), pieces_of_cut? found, ih]

/-- A character that is neither blank nor half a separator. -/
def Inner (c : Char) : Prop := isBlank c = false ∧ c ≠ '&'

/-- A text that does not end with half a separator goes on behind the cut. -/
theorem getLast?_of_cut? {c : Char} (cut : cut? ['&', '&'] cs = some (before, after))
    (last : cs.getLast? = some c) (noMark : c ≠ '&') : after.getLast? = some c := by
  rw [cut?_eq_append cut, List.getLast?_append, List.getLast?_append] at last
  cases back : after.getLast? with
  | some d => simpa [back] using last
  | none => exact absurd (by simpa [back] using last.symm) noMark

/-- Something remains of a text that does not end with a blank or half a separator. -/
theorem pieces_ne_nil {c : Char} (last : cs.getLast? = some c) (inner : Inner c) :
    pieces cs ≠ [] := by
  fun_induction split ['&', '&'] separator_ne_nil cs with
  | case1 cs found =>
      have kept : trim cs ≠ [] := trim_ne_nil inner.1 (List.mem_of_getLast? last)
      rw [pieces_of_absent (cut?_eq_none_iff.mp found)]
      simp [kept]
  | case2 cs before after found _ ih =>
      rw [pieces_of_cut? found, ne_eq, List.append_eq_nil_iff, not_and]
      exact fun _ => ih (getLast?_of_cut? found last inner.2)

/-- A text whose ends are neither blank nor half a separator. -/
structure Framed (cs : List Char) : Prop where
  /-- The first character is neither blank nor half a separator. -/
  first : ∃ c, cs.head? = some c ∧ Inner c
  /-- The last character is neither blank nor half a separator. -/
  last : ∃ c, cs.getLast? = some c ∧ Inner c

/-- A framed text without a separator is one piece. -/
theorem Framed.pieces_eq (framed : Framed cs) (absent : ¬['&', '&'] <:+: cs) :
    pieces cs = [cs] := by
  obtain ⟨⟨c, front, solid, -⟩, d, back, solid', -⟩ := framed
  have trimmed : trim cs = cs := by
    refine trim_of_solid (fun e mem => ?_) fun e mem => ?_
    · cases Option.some.inj (front.symm.trans mem)
      exact solid
    · cases Option.some.inj (back.symm.trans mem)
      exact solid'
  have nonempty : cs ≠ [] := by
    rintro rfl
    cases front
  rw [pieces_of_absent absent, trimmed, List.filter_cons_of_pos (by simpa using nonempty),
    List.filter_nil]

/-- A framed text with a separator has two pieces at least. -/
theorem Framed.two_le_length_pieces (framed : Framed cs) (inside : ['&', '&'] <:+: cs) :
    2 ≤ (pieces cs).length := by
  obtain ⟨⟨c, front, inner⟩, d, back, inner'⟩ := framed
  obtain ⟨⟨before, after⟩, cut⟩ :=
    Option.ne_none_iff_exists'.mp (mt cut?_eq_none_iff.mp (not_not_intro inside))
  have kept : trim before ≠ [] := by
    rw [cut?_eq_append cut] at front
    cases before with
    | nil => exact absurd (Option.some.inj front).symm inner.2
    | cons e before =>
        cases Option.some.inj front
        exact trim_ne_nil inner.1 List.mem_cons_self
  have pos := List.length_pos_iff.mpr
    (pieces_ne_nil (getLast?_of_cut? cut back inner'.2) inner')
  rw [pieces_of_cut? cut, List.filter_cons_of_pos (by simpa using kept), List.filter_nil,
    List.singleton_append, List.length_cons]
  omega

/-! ### Joined texts -/

/-- **The clauses of two conditions joined** are those of both. -/
theorem parse_join (s t : String) : parse (s ++ " && " ++ t) = parse s ++ parse t := by
  have eq : (s ++ " && " ++ t).toList = (s.toList ++ [' ']) ++ (['&', '&'] ++ ' ' :: t.toList) := by
    simp [String.toList_append]
  rw [parse_eq, parse_eq, parse_eq, eq, pieces_append (by simp), pieces_concat_of_blank rfl,
    pieces_cons_of_blank rfl, List.map_append]

/-- **The clauses of any number of conditions joined** are those of all. -/
theorem parse_intercalate (texts : List String) :
    parse (String.intercalate " && " texts) = texts.flatMap parse := by
  induction texts with
  | nil => rw [parse_eq, String.intercalate_nil, String.toList_empty, pieces_nil]; rfl
  | cons s texts ih =>
      cases texts with
      | nil => rw [String.intercalate_singleton, List.flatMap_singleton]
      | cons t texts =>
          rw [String.intercalate_cons_cons, parse_join, ih]
          rfl

/-- A text without a separator is one clause, or none if it is blank. -/
theorem parse_of_absent {text : String} (absent : ¬['&', '&'] <:+: text.toList) :
    parse text = ([trim text.toList].filter (· ≠ [])).map clause := by
  rw [parse_eq, pieces_of_absent absent]

/-- Texts without a separator, when joined, are taken apart into these texts again, blank ones left
out. -/
theorem parse_intercalate_of_absent {texts : List String}
    (absent : ∀ text ∈ texts, ¬['&', '&'] <:+: text.toList) :
    parse (String.intercalate " && " texts) =
      ((texts.map fun text => trim text.toList).filter (· ≠ [])).map clause := by
  rw [parse_intercalate]
  induction texts with
  | nil => rfl
  | cons text texts ih =>
      rw [List.flatMap_cons, ih fun other mem => absent other (List.mem_cons_of_mem text mem),
        parse_of_absent (absent text List.mem_cons_self), List.map_cons, ← List.map_append,
        ← List.filter_append, List.singleton_append]

/-- Without clauses a condition holds. -/
theorem holds_of_parse_eq_nil {text : String} (none : parse text = []) (outcome : Outcome)
    (context : Context) : holds text outcome context = true := by
  rw [holds, none]
  rfl

theorem parse_of_blank {text : String} (blank : ∀ c ∈ text.toList, isBlank c = true) :
    parse text = [] := by
  have absent : ¬['&', '&'] <:+: text.toList := fun inside =>
    ne_ampersand_of_isBlank (blank '&' (inside.subset List.mem_cons_self)) rfl
  have nothing : trimStart text.toList = [] := List.dropWhile_eq_nil_iff.mpr blank
  rw [parse_of_absent absent, trim, nothing]
  rfl

/-- **A condition is a conjunction.**  Texts joined by separators hold exactly when each of them
does: those without a separator are the clauses again, whatever stands at their ends, a blank one
holds, and so does the condition of no texts at all.  Any text holds exactly when all of its clauses
do. -/
theorem holds_intercalate (texts : List String) (outcome : Outcome) (context : Context) :
    (holds (String.intercalate " && " texts) outcome context = true ↔
        ∀ text ∈ texts, holds text outcome context = true) ∧
      ((∀ text ∈ texts, ¬['&', '&'] <:+: text.toList) →
        parse (String.intercalate " && " texts) =
          ((texts.map fun text => trim text.toList).filter (· ≠ [])).map clause) ∧
      (∀ text : String, (∀ c ∈ text.toList, isBlank c = true) →
        holds text outcome context = true) ∧
      holds (String.intercalate " && " []) outcome context = true ∧
      ∀ text : String, holds text outcome context = true ↔
        ∀ c ∈ parse text, c.holds outcome context = true := by
  refine ⟨?_, parse_intercalate_of_absent,
    fun text blank => holds_of_parse_eq_nil (parse_of_blank blank) outcome context,
    holds_of_parse_eq_nil (parse_intercalate []) outcome context, fun text => List.all_eq_true⟩
  simp only [holds, allHold, parse_intercalate, List.all_flatMap, List.all_eq_true]

/-- Single ampersands at the ends of the texts, and a blank text between them.  Where the status is
not as the first text says, the others do not help. -/
theorem single_ampersands_hold :
    parse (String.intercalate " && " ["status &", " \t", "& != b"]) =
        [⟨"status &", .present, ""⟩, ⟨"&", .notEqual, "b"⟩] ∧
      holds (String.intercalate " && " ["outcome=success", " \t", "& != b"]) .success .empty =
        true ∧
      holds (String.intercalate " && " ["outcome=fail", " \t", "& != b"]) .success .empty =
        false := by
  refine ⟨((holds_intercalate _ .success .empty).2.1 (by decide +kernel)).trans (by decide +kernel),
    (holds_intercalate _ .success .empty).1.mpr (by decide +kernel), ?_⟩
  rw [← Bool.not_eq_true, (holds_intercalate _ .success .empty).1]
  exact fun all => absurd (all "outcome=fail" List.mem_cons_self) (by decide +kernel)

end Workflow.Condition
