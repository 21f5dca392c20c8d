import Mathlib.Data.List.TakeWhile
import Workflow.Proofs.Numerals
import Workflow.Text.Search

/-!
# Where a text is split

A text is split from the left, so whether two texts with a separator between them are split
there depends on the first: it may end with a part of the separator, and then the cut falls
earlier.  It does not when the last character of the first text is none of those the separator
begins with, and then the parts are those of the two texts.

## Main Statements

* `Text.cut?_eq_none_iff`, `Text.cut?_eq_some_iff` — a text is cut where the pattern stands for
  the first time.
* `Text.split_append` — the parts of two texts with a separator between them.
-/

namespace Workflow.Text

variable {pattern cs before after front : List Char}

/-! ### Cutting -/

theorem after?_eq_none_iff : after? pattern cs = none ↔ ¬pattern <+: cs := by
  simp only [Option.eq_none_iff_forall_ne_some, ne_eq, after?_eq_some_iff, List.IsPrefix,
    not_exists, eq_comm (a := cs)]

/-- A text whose first character is not in the pattern adds nothing to what stands in front. -/
theorem after?_append {rest : List Char} (apart : ∀ c ∈ rest.head?, c ∉ pattern)
    (cs : List Char) : after? pattern (cs ++ rest) = (after? pattern cs).map (· ++ rest) := by
  induction pattern generalizing cs with
  | nil => rfl
  | cons p pattern ih =>
      have others : ∀ c ∈ rest.head?, c ∉ pattern := fun c front mem =>
        apart c front (List.mem_cons_of_mem p mem)
      cases cs with
      | nil =>
          cases rest with
          | nil => rfl
          | cons c rest =>
              refine if_neg ?_
              rintro rfl
              exact apart p rfl List.mem_cons_self
      | cons c cs =>
          rw [List.cons_append, after?, after?]
          split
          · exact ih others cs
          · rfl

/-- A text is cut unless the pattern does not stand in it. -/
theorem cut?_eq_none_iff : cut? pattern cs = none ↔ ¬pattern <:+: cs := by
  induction cs with
  | nil => simp only [cut?, Option.map_eq_none_iff, after?_eq_none_iff, List.prefix_nil,
      List.infix_nil]
  | cons c cs ih =>
      rw [List.infix_cons_iff, not_or, ← ih, ← after?_eq_none_iff, cut?]
      cases after? pattern (c :: cs) with
      | some rest => simp
      | none => simp

/-- The pattern without its last character stands in front of the cut and the pattern. -/
theorem dropLast_prefix_append (pattern before after : List Char) :
    before ++ pattern.dropLast <+: before ++ (pattern ++ after) :=
  (List.prefix_append_right_inj before).mpr
    ((List.dropLast_prefix pattern).trans (List.prefix_append pattern after))

theorem not_infix_dropLast (nonempty : pattern ≠ []) : ¬pattern <:+: pattern.dropLast := by
  intro inside
  have pos := List.length_pos_iff.mpr nonempty
  have le := inside.length_le
  rw [List.length_dropLast] at le
  omega

/-- A text is cut at the pattern that ends first. -/
theorem not_infix_append_dropLast (nonempty : pattern ≠ [])
    (cut : cut? pattern cs = some (before, after)) : ¬pattern <:+: before ++ pattern.dropLast := by
  induction cs generalizing before with
  | nil =>
      simp only [cut?, Option.map_eq_some_iff, Prod.mk.injEq] at cut
      obtain ⟨_, _, rfl, _⟩ := cut
      exact not_infix_dropLast nonempty
  | cons c cs ih =>
      rw [cut?] at cut
      split at cut
      · cases cut
        exact not_infix_dropLast nonempty
      · next absent =>
          simp only [Option.map_eq_some_iff, Prod.mk.injEq] at cut
          obtain ⟨⟨before, after⟩, cut, rfl, rfl⟩ := cut
          rw [List.cons_append, List.infix_cons_iff]
          rintro (front | inside)
          · rw [after?_eq_none_iff, cut?_eq_append cut] at absent
            exact absent (front.trans (dropLast_prefix_append pattern (c :: before) after))
          · exact ih cut inside

/-- In front of the cut there is no occurrence. -/
theorem not_infix_of_cut? (cut : cut? pattern cs = some (before, after)) (nonempty : pattern ≠ []) :
    ¬pattern <:+: before := fun inside =>
  not_infix_append_dropLast nonempty cut (inside.trans (List.prefix_append before _).isInfix)

/-- A text is cut where no other occurrence of the pattern ends before. -/
theorem cut?_append (nonempty : pattern ≠ []) (first : ¬pattern <:+: before ++ pattern.dropLast)
    (after : List Char) : cut? pattern (before ++ (pattern ++ after)) = some (before, after) := by
  induction before with
  | nil =>
      obtain ⟨p, ps, rfl⟩ := List.exists_cons_of_ne_nil nonempty
      have found : after? (p :: ps) (p :: ps ++ after) = some after :=
        after?_eq_some_iff.mpr rfl
      rw [List.cons_append] at found
      rw [List.nil_append, List.cons_append, cut?, found]
  | cons c before ih =>
      rw [List.cons_append, List.infix_cons_iff, not_or] at first
      have absent : after? pattern (c :: (before ++ (pattern ++ after))) = none := by
        rw [after?_eq_none_iff]
        -- an occurrence at this character would end before the one that is cut
        intro front
        refine first.1 (List.prefix_of_prefix_length_le front
          (dropLast_prefix_append pattern (c :: before) after) ?_)
        simp only [List.length_cons, List.length_append, List.length_dropLast]
        omega
      rw [List.cons_append, cut?, absent, ih first.2]
      rfl

/-- **A text is cut at the first occurrence of the pattern.** -/
theorem cut?_eq_some_iff (nonempty : pattern ≠ []) : cut? pattern cs = some (before, after) ↔
    cs = before ++ (pattern ++ after) ∧ ¬pattern <:+: before ++ pattern.dropLast := by
  constructor
  · exact fun cut => ⟨cut?_eq_append cut, not_infix_append_dropLast nonempty cut⟩
  · rintro ⟨rfl, first⟩
    exact cut?_append nonempty first after

/-- What follows the cut may be longer. -/
theorem cut?_append_right (nonempty : pattern ≠ []) (cut : cut? pattern cs = some (before, after))
    (rest : List Char) : cut? pattern (cs ++ rest) = some (before, after ++ rest) := by
  rw [cut?_eq_some_iff nonempty] at cut ⊢
  obtain ⟨rfl, first⟩ := cut
  exact ⟨by simp only [List.append_assoc], first⟩

/-- No occurrence straddles the end of a text whose last character the pattern has nowhere but
at its own end. -/
theorem not_infix_append_dropLast_of_ends (nonempty : pattern ≠ []) (absent : ¬pattern <:+: front)
    (ends : ∀ c ∈ front.getLast?, c ∉ pattern.dropLast) :
    ¬pattern <:+: front ++ pattern.dropLast := by
  rintro ⟨s, t, eq⟩
  rcases List.append_eq_append_iff.mp eq with ⟨r, eq, -⟩ | ⟨r, eq, rest⟩
  · exact absent ⟨s, r, eq.symm⟩
  have short : r.length < pattern.length := by
    have pos := List.length_pos_iff.mpr nonempty
    have size := congrArg List.length rest
    simp only [List.length_append, List.length_dropLast] at size
    omega
  rcases List.append_eq_append_iff.mp eq with ⟨u, rfl, rfl⟩ | ⟨u, -, rfl⟩
  · -- the part of the occurrence inside the text, which is not all of it
    have notAll : r ≠ [] := by
      rintro rfl
      exact absent ⟨s, [], by simp only [List.append_nil]⟩
    rcases List.eq_nil_or_concat u with rfl | ⟨init, c, rfl⟩
    · exact absurd short (by simp only [List.nil_append, Nat.lt_irrefl, not_false_iff])
    · refine ends c (by simp) ?_
      rw [List.dropLast_append_of_ne_nil notAll]
      simp
  · simp only [List.length_append] at short
    omega

/-! ### Where a pattern can stand -/

theorem infix_cons_iff_of_ne {a c : Char} (apart : a ≠ c) :
    a :: pattern <:+: c :: cs ↔ a :: pattern <:+: cs := by
  rw [List.infix_cons_iff, List.cons_prefix_cons]
  exact or_iff_right fun front => apart front.1

/-- A pattern does not begin among characters that are not its first. -/
theorem infix_append_iff_of_notMem {a : Char} {w : List Char} (apart : a ∉ w) :
    a :: pattern <:+: w ++ cs ↔ a :: pattern <:+: cs := by
  induction w with
  | nil => rw [List.nil_append]
  | cons c w ih =>
      rw [List.mem_cons, not_or] at apart
      rw [List.cons_append, infix_cons_iff_of_ne apart.1, ih apart.2]

/-- A pattern does not end at a character that is not its last. -/
theorem infix_concat_iff_of_ne {b c : Char} (apart : b ≠ c) :
    pattern ++ [b] <:+: cs ++ [c] ↔ pattern ++ [b] <:+: cs := by
  rw [List.infix_concat_iff, or_iff_right]
  intro back
  rcases List.suffix_concat_iff.mp back with none | ⟨t, eq, -⟩
  · exact List.concat_ne_nil b pattern none
  · exact apart (List.singleton_inj.mp (List.append_inj_right' eq rfl))

theorem infix_concat_iff_of_notMem {c : Char} (nonempty : pattern ≠ []) (apart : c ∉ pattern) :
    pattern <:+: cs ++ [c] ↔ pattern <:+: cs := by
  rcases List.eq_nil_or_concat pattern with rfl | ⟨front, b, rfl⟩
  · exact absurd rfl nonempty
  · rw [List.concat_eq_append] at apart ⊢
    refine infix_concat_iff_of_ne ?_
    rintro rfl
    exact apart List.mem_concat_self

/-! ### Splitting -/

variable {separator : List Char} {nonempty : separator ≠ []}

theorem split_of_absent (absent : ¬separator <:+: cs) : split separator nonempty cs = [cs] := by
  rw [split]
  split
  · rfl
  · next found => rw [cut?_eq_none_iff.mpr absent] at found; cases found

theorem split_of_cut? (cut : cut? separator cs = some (before, after)) :
    split separator nonempty cs = before :: split separator nonempty after := by
  rw [split]
  split
  · next found => rw [cut] at found; cases found
  · next found => rw [cut] at found; cases found; rfl

/-- **The parts of two texts with a separator between them**, when the first text does not end
with a character that the separator has before its end. -/
theorem split_append {x : List Char} (ends : ∀ c ∈ x.getLast?, c ∉ separator.dropLast)
    (y : List Char) : split separator nonempty (x ++ (separator ++ y)) =
      split separator nonempty x ++ split separator nonempty y := by
  fun_induction split separator nonempty x with
  | case1 x found =>
      have first := not_infix_append_dropLast_of_ends nonempty (cut?_eq_none_iff.mp found) ends
      rw [split_of_cut? (cut?_append nonempty first y), List.singleton_append]
  | case2 x before after found _ ih =>
      have ends' : ∀ c ∈ after.getLast?, c ∉ separator.dropLast := by
        intro c last
        refine ends c ?_
        rw [cut?_eq_append found, List.getLast?_append, List.getLast?_append, last]
        rfl
      rw [split_of_cut? (cut?_append_right nonempty found _), ih ends', List.cons_append]

/-! ### Trimming -/

theorem trim_cons_of_blank {c : Char} (blank : isBlank c = true) (cs : List Char) :
    trim (c :: cs) = trim cs := by
  rw [trim, trim, trimStart_cons_of_blank blank]

theorem trimEnd_concat_of_blank {c : Char} (blank : isBlank c = true) (cs : List Char) :
    trimEnd (cs ++ [c]) = trimEnd cs := by
  rw [trimEnd, trimEnd, List.reverse_concat, trimStart_cons_of_blank blank]

theorem trim_concat_of_blank {c : Char} (blank : isBlank c = true) (cs : List Char) :
    trim (cs ++ [c]) = trim cs := by
  induction cs with
  | nil => rw [List.nil_append, trim_cons_of_blank blank]
  | cons d cs ih =>
      cases front : isBlank d with
      | true => rw [List.cons_append, trim_cons_of_blank front, trim_cons_of_blank front, ih]
      | false =>
          rw [trim, trim, List.cons_append, trimStart_cons_of_not_blank front,
            trimStart_cons_of_not_blank front, ← List.cons_append, trimEnd_concat_of_blank blank]

theorem trimStart_ne_nil {c : Char} (solid : isBlank c = false) (mem : c ∈ cs) :
    trimStart cs ≠ [] := by
  intro gone
  have blank := List.dropWhile_eq_nil_iff.mp gone c mem
  rw [solid] at blank
  cases blank

/-- A text with a character that is not blank is not trimmed away. -/
theorem trim_ne_nil {c : Char} (solid : isBlank c = false) (mem : c ∈ cs) : trim cs ≠ [] := by
  obtain ⟨d, rest, front⟩ := List.exists_cons_of_ne_nil (trimStart_ne_nil solid mem)
  rw [trim, front, trimEnd, ne_eq, List.reverse_eq_nil_iff]
  exact trimStart_ne_nil (not_isBlank_of_trimStart_eq_cons front)
    (List.mem_reverse.mpr List.mem_cons_self)

end Workflow.Text
