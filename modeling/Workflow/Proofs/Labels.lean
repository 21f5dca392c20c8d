import Mathlib.Data.List.Basic
import Mathlib.Data.Option.Basic
import Workflow.Label
import Workflow.Proofs.Splitting

/-!
# What labels are compared by

A label is compared in lower case, without the blanks around it and without one marker in front
of it.  This file says what that leaves of labels in ASCII, with a marker and without.

Blanks and markers are found in the text after it was lowered.  In ASCII this makes no
difference: lowering keeps the blanks and the characters that markers are made of, and makes
none of other characters.

## Main Definitions

* `Text.IsAscii` — texts in ASCII.
* `Label.plain` — a label in lower case, without the blanks around it.
* `Label.Accelerated` — texts with what is taken for a marker in front.
* `Label.markers` — the markers that a character makes.

## Main Statements

* `Text.lowercase_of_isAscii` — ASCII is lowered character by character.
* `Label.normalize_of_not_accelerated` — a label without a marker is compared as it stands.
* `Label.normalize_marker_append` — a marker in front of such a label makes no difference.
-/

namespace Workflow

namespace Text

variable {cs back : List Char}

/-! ### Between blanks -/

theorem trim_append_right_of_blank (blank : ∀ c ∈ back, isBlank c = true) (cs : List Char) :
    trim (cs ++ back) = trim cs := by
  induction back generalizing cs with
  | nil => rw [List.append_nil]
  | cons c back ih =>
      rw [List.forall_mem_cons] at blank
      rw [List.append_cons, ih blank.2, trim_concat_of_blank blank.1]

/-- Behind a trimmed text there were blanks. -/
theorem exists_trimStart_eq (cs : List Char) :
    ∃ back, trimStart cs = trim cs ++ back ∧ ∀ c ∈ back, isBlank c = true := by
  refine ⟨((trimStart cs).reverse.takeWhile isBlank).reverse, ?_, fun c mem => ?_⟩
  · rw [trim, trimEnd, ← List.reverse_append]
    show _ = (_ ++ List.dropWhile isBlank _).reverse
    rw [List.takeWhile_append_dropWhile, List.reverse_reverse]
  · exact List.mem_takeWhile_imp (List.mem_reverse.mp mem)

/-- What is trimmed away is blank. -/
theorem exists_eq_trim (cs : List Char) : ∃ front back, cs = front ++ (trim cs ++ back) ∧
    (∀ c ∈ front, isBlank c = true) ∧ ∀ c ∈ back, isBlank c = true := by
  obtain ⟨back, eq, blank⟩ := exists_trimStart_eq cs
  refine ⟨cs.takeWhile isBlank, back, ?_, fun c mem => List.mem_takeWhile_imp mem, blank⟩
  rw [← eq]
  exact List.takeWhile_append_dropWhile.symm

/-- A trimmed text does not begin with a blank. -/
theorem head?_trim (cs : List Char) : ∀ c ∈ (trim cs).head?, isBlank c = false := by
  intro c first
  obtain ⟨back, eq, -⟩ := exists_trimStart_eq cs
  obtain ⟨rest, front⟩ := List.head?_eq_some_iff.mp first
  rw [front, List.cons_append] at eq
  exact not_isBlank_of_trimStart_eq_cons eq

/-- A trimmed text does not end with a blank. -/
theorem getLast?_trim (cs : List Char) : ∀ c ∈ (trim cs).getLast?, isBlank c = false := by
  intro c last
  rw [trim, trimEnd, List.getLast?_reverse] at last
  obtain ⟨rest, front⟩ := List.head?_eq_some_iff.mp last
  exact not_isBlank_of_trimStart_eq_cons front

/-! ### Lower case of ASCII -/

/-- The text is in ASCII. -/
def IsAscii (cs : List Char) : Prop := ∀ c ∈ cs, c.toNat < 128

instance (cs : List Char) : Decidable (IsAscii cs) := List.decidableBAll _ cs

/-- What holds of the first 128 characters holds in ASCII. -/
theorem forall_ascii {P : Char → Prop} (all : ∀ n < 128, P (Char.ofNat n)) {c : Char}
    (ascii : c.toNat < 128) : P c := by
  have holds := all c.toNat ascii
  rwa [Char.ofNat_toNat] at holds

theorem lowerChar_of_ascii {c : Char} (ascii : c.toNat < 128) : lowerChar c = c.toLower :=
  forall_ascii (P := fun c => lowerChar c = c.toLower) (by decide +kernel) ascii

/-- Lowering keeps blanks and makes none. -/
theorem isBlank_toLower {c : Char} (ascii : c.toNat < 128) : isBlank c.toLower = isBlank c :=
  forall_ascii (P := fun c => isBlank c.toLower = isBlank c) (by decide +kernel) ascii

/-- Lowering keeps all characters that are no letters and makes none. -/
theorem toLower_eq_iff {c d : Char} (ascii : c.toNat < 128) (noLetter : d.isAlpha = false) :
    c.toLower = d ↔ c = d := by
  have kept : c.toLower = c ∨ c.isAlpha = true ∧ c.toLower.isAlpha = true :=
    forall_ascii (P := fun c => c.toLower = c ∨ c.isAlpha = true ∧ c.toLower.isAlpha = true)
      (by decide +kernel) ascii
  rcases kept with same | ⟨before, after⟩
  · rw [same]
  · refine iff_of_false ?_ ?_
    · rintro rfl
      exact Bool.eq_false_iff.mp noLetter after
    · rintro rfl
      exact Bool.eq_false_iff.mp noLetter before

/-- **ASCII is lowered character by character.** -/
theorem lowercase_of_isAscii (ascii : IsAscii cs) : lowercase cs = cs.map Char.toLower := by
  have after (before cs : List Char) (ascii : IsAscii cs) :
      lowercaseAfter before cs = cs.map Char.toLower := by
    induction cs generalizing before with
    | nil => rfl
    | cons c cs ih =>
        obtain ⟨first, others⟩ := List.forall_mem_cons.mp ascii
        have noSigma : c ≠ 'Σ' := by
          rintro rfl
          exact absurd first (by decide)
        have noDot : c ≠ 'İ' := by
          rintro rfl
          exact absurd first (by decide)
        rw [lowercaseAfter, if_neg noSigma, if_neg noDot, lowerChar_of_ascii first, ih _ others,
          List.map_cons]
  exact after [] cs ascii

end Text

namespace Label

open Text

/-! ### Markers -/

/-- A label in lower case, without the blanks around it. -/
def plain (label : String) : List Char := lowercase (trim label.toList)

/-- The text begins with what is taken for a marker. -/
inductive Accelerated : List Char → Prop
  /-- A character in brackets. -/
  | bracketed {c : Char} {rest : List Char} (sameLine : c ≠ '\n') :
      Accelerated ('[' :: c :: ']' :: rest)
  /-- A character in front of a closing parenthesis. -/
  | parenthesized {c : Char} {rest : List Char} (sameLine : c ≠ '\n') :
      Accelerated (c :: ')' :: rest)
  /-- A character in front of a dash, with or without blanks between them. -/
  | dashed {c : Char} {gap rest : List Char} (sameLine : c ≠ '\n')
      (blank : ∀ d ∈ gap, isBlank d = true) : Accelerated (c :: (gap ++ '-' :: rest))

section Forms

variable {cs rest : List Char}

theorem bracketed?_eq_some_iff : bracketed? cs = some rest ↔
    ∃ c behind, c ≠ '\n' ∧ cs = '[' :: c :: ']' :: behind ∧ rest = trimStart behind := by
  constructor
  · intro found
    unfold bracketed? at found
    split at found
    · split at found
      · cases found
      · next c behind sameLine =>
          cases found
          exact ⟨c, behind, sameLine, rfl, rfl⟩
    · cases found
  · rintro ⟨c, behind, sameLine, rfl, rfl⟩
    exact if_neg sameLine

theorem parenthesized?_eq_some_iff : parenthesized? cs = some rest ↔
    ∃ c behind, c ≠ '\n' ∧ cs = c :: ')' :: behind ∧ rest = trimStart behind := by
  constructor
  · intro found
    unfold parenthesized? at found
    split at found
    · split at found
      · cases found
      · next c behind sameLine =>
          cases found
          exact ⟨c, behind, sameLine, rfl, rfl⟩
    · cases found
  · rintro ⟨c, behind, sameLine, rfl, rfl⟩
    exact if_neg sameLine

theorem trimStart_dash {gap : List Char} (blank : ∀ d ∈ gap, isBlank d = true) :
    trimStart (gap ++ '-' :: rest) = '-' :: rest :=
  dropWhile_append_of_ends blank (by simp [isBlank])

/-- Where to look for a marker. -/
theorem Accelerated.visible (accelerated : Accelerated cs) : cs[2]? = some ']' ∨
    cs[1]? = some ')' ∨ (trimStart cs.tail).head? = some '-' := by
  cases accelerated with
  | bracketed => exact .inl rfl
  | parenthesized => exact .inr (.inl rfl)
  | dashed _ blank =>
      rw [List.tail_cons, trimStart_dash blank]
      exact .inr (.inr rfl)

theorem dashed?_eq_some_iff : dashed? cs = some rest ↔
    ∃ c gap behind, c ≠ '\n' ∧ (∀ d ∈ gap, isBlank d = true) ∧ cs = c :: (gap ++ '-' :: behind) ∧
      rest = trimStart behind := by
  constructor
  · intro found
    unfold dashed? at found
    split at found
    · next c cs =>
        split at found
        · cases found
        · next sameLine =>
            split at found
            · next behind dash =>
                cases found
                refine ⟨c, cs.takeWhile isBlank, behind, sameLine,
                  fun d mem => List.mem_takeWhile_imp mem, ?_, rfl⟩
                rw [← dash, trimStart, List.takeWhile_append_dropWhile]
            · cases found
    · cases found
  · rintro ⟨c, gap, behind, sameLine, blank, rfl, rfl⟩
    rw [dashed?, if_neg sameLine, trimStart_dash blank]
    rfl

/-- A text in front of which nothing is taken for a marker is left as it is. -/
theorem withoutMarker_of_not_accelerated (bare : ¬Accelerated cs) : withoutMarker cs = cs := by
  unfold withoutMarker
  split
  · next rest found =>
      obtain ⟨c, behind, sameLine, rfl, -⟩ := bracketed?_eq_some_iff.mp found
      exact absurd (.bracketed sameLine) bare
  · split
    · next rest found =>
        obtain ⟨c, behind, sameLine, rfl, -⟩ := parenthesized?_eq_some_iff.mp found
        exact absurd (.parenthesized sameLine) bare
    · split
      · next rest found =>
          obtain ⟨c, gap, behind, sameLine, blank, rfl, -⟩ := dashed?_eq_some_iff.mp found
          exact absurd (.dashed sameLine blank) bare
      · rfl

end Forms

/-! ### Labels in ASCII -/

section Ascii

variable {label : String} (ascii : IsAscii label.toList)
include ascii

theorem isAscii_trim : IsAscii (trim label.toList) := by
  obtain ⟨front, back, eq, -⟩ := exists_eq_trim label.toList
  intro c mem
  refine ascii c ?_
  rw [eq]
  exact List.mem_append_right _ (List.mem_append_left _ mem)

theorem plain_eq : plain label = (trim label.toList).map Char.toLower :=
  lowercase_of_isAscii (isAscii_trim ascii)

/-- Lowering makes no blanks, so there are none around a label that was trimmed before. -/
theorem trim_plain : trim (plain label) = plain label := by
  have solid {c d : Char} (mem : d ∈ trim label.toList) (eq : d.toLower = c)
      (solid : isBlank d = false) : isBlank c = false := by
    rw [← eq, isBlank_toLower (isAscii_trim ascii d mem)]
    exact solid
  rw [plain_eq ascii]
  refine trim_of_solid ?front ?back
  case front =>
    intro c first
    rw [List.head?_map] at first
    obtain ⟨d, front, eq⟩ := Option.mem_map.mp first
    exact solid (List.mem_of_mem_head? front) eq (head?_trim _ d front)
  case back =>
    intro c last
    rw [List.getLast?_map] at last
    obtain ⟨d, back, eq⟩ := Option.mem_map.mp last
    exact solid (List.mem_of_mem_getLast? back) eq (getLast?_trim _ d back)

/-- A label without a marker is compared as it stands. -/
theorem normalize_of_not_accelerated (bare : ¬Accelerated (plain label)) :
    normalize label = String.ofList (plain label) := by
  show String.ofList (trim (withoutMarker (plain label))) = _
  rw [withoutMarker_of_not_accelerated bare, trim_plain ascii]

end Ascii

/-! ### Labels with a marker -/

/-- The markers that a character makes. -/
def markers (c : Char) : List (List Char) := [['[', c, ']'], [c, ')'], [c, ' ', '-']]

theorem markers_cases {P : List Char → Prop} {c : Char} (bracketed : P ['[', c, ']'])
    (parenthesized : P [c, ')']) (dashed : P [c, ' ', '-']) : ∀ mark ∈ markers c, P mark := by
  simp only [markers, List.forall_mem_cons, List.not_mem_nil, false_imp_iff, implies_true, and_true]
  exact ⟨bracketed, parenthesized, dashed⟩

/-- A marker is stripped, with the blanks behind it. -/
theorem withoutMarker_append {c : Char} {rest : List Char} (sameLine : c ≠ '\n')
    (ends : ∀ d ∈ rest.head?, d = ' ') :
    ∀ mark ∈ markers c, withoutMarker (mark ++ rest) = trimStart rest := by
  apply markers_cases
  · simp [withoutMarker, bracketed?, sameLine]
  · have noBrackets : bracketed? (c :: ')' :: rest) = none := by
      -- brackets around the parenthesis would close where the rest begins
      refine Option.eq_none_iff_forall_ne_some.mpr fun behind found => ?_
      obtain ⟨d, behind, -, eq, -⟩ := bracketed?_eq_some_iff.mp found
      obtain ⟨-, eq⟩ := List.cons.inj eq
      obtain ⟨-, rfl⟩ := List.cons.inj eq
      exact absurd (ends ']' rfl) (by decide)
    have found : parenthesized? (c :: ')' :: rest) = some (trimStart rest) :=
      parenthesized?_eq_some_iff.mpr ⟨c, rest, sameLine, rfl, rfl⟩
    show withoutMarker (c :: ')' :: rest) = _
    simp only [withoutMarker, noBrackets, found]
  · have noBrackets : bracketed? (c :: ' ' :: '-' :: rest) = none := by
      refine Option.eq_none_iff_forall_ne_some.mpr fun behind found => ?_
      obtain ⟨d, behind, -, eq, -⟩ := bracketed?_eq_some_iff.mp found
      simp at eq
    have noParenthesis : parenthesized? (c :: ' ' :: '-' :: rest) = none := rfl
    have found : dashed? (c :: ' ' :: '-' :: rest) = some (trimStart rest) :=
      dashed?_eq_some_iff.mpr
        ⟨c, [' '], rest, sameLine, List.forall_mem_singleton.mpr rfl, rfl, rfl⟩
    show withoutMarker (c :: ' ' :: '-' :: rest) = _
    simp only [withoutMarker, noBrackets, noParenthesis, found]

/-- In lower case a marker is one that the character makes in lower case. -/
theorem map_toLower_mem_markers {c : Char} :
    ∀ mark ∈ markers c, mark.map Char.toLower ∈ markers c.toLower :=
  markers_cases List.mem_cons_self (List.mem_cons_of_mem _ List.mem_cons_self)
    (List.mem_cons_of_mem _ (List.mem_cons_of_mem _ List.mem_cons_self))

/-- A marker stands by itself: neither end of it is blank. -/
theorem marker_solid {c : Char} (ascii : c.toNat < 128) (solid : isBlank c = false) :
    ∀ mark ∈ markers c, IsAscii mark ∧ (∀ d ∈ mark.head?, isBlank d = false) ∧
      (∀ d ∈ mark.getLast?, isBlank d = false) ∧ mark ≠ [] := by
  have fixed : isBlank '[' = false ∧ isBlank ']' = false ∧ isBlank ')' = false ∧
      isBlank '-' = false := by decide
  apply markers_cases <;> simp [IsAscii, ascii, solid, fixed]

/-- Between a marker and what was trimmed behind it there are only blanks, and there are none if
nothing stands there. -/
theorem exists_trim_append {mark : List Char} (front : ∀ c ∈ mark.head?, isBlank c = false)
    (back : ∀ c ∈ mark.getLast?, isBlank c = false) (some : mark ≠ []) (cs : List Char) :
    ∃ gap, trim (mark ++ ' ' :: cs) = mark ++ (gap ++ trim cs) ∧ (∀ c ∈ gap, isBlank c = true) ∧
      ∀ c ∈ (gap ++ trim cs).head?, c = ' ' := by
  obtain ⟨before, behind, eq, blank, blank'⟩ := exists_eq_trim cs
  have gap : ∀ c ∈ ' ' :: before, isBlank c = true := List.forall_mem_cons.mpr ⟨rfl, blank⟩
  by_cases nothing : trim cs = []
  · -- the marker is all that is left
    have allBlank : ∀ c ∈ ' ' :: cs, isBlank c = true := by
      rw [eq, nothing, List.nil_append, ← List.cons_append]
      exact List.forall_mem_append.mpr ⟨gap, blank'⟩
    refine ⟨[], ?_, List.forall_mem_nil _, ?_⟩
    · rw [trim_append_right_of_blank allBlank, trim_of_solid front back, nothing, List.append_nil,
        List.append_nil]
    · rw [nothing]
      exact fun c none => absurd none (Option.not_mem_none c)
  · refine ⟨' ' :: before, ?_, gap, fun c first => (Option.some.inj first).symm⟩
    have joined : mark ++ ' ' :: cs = mark ++ (' ' :: before ++ trim cs) ++ behind := by
      conv => lhs; rw [eq]
      simp only [List.append_assoc, List.cons_append]
    rw [joined, trim_append_right_of_blank blank']
    refine trim_of_solid ?_ ?_
    · rwa [List.head?_append_of_ne_nil _ some]
    · rw [List.getLast?_append_of_ne_nil _ (by simp), List.getLast?_append_of_ne_nil _ nothing]
      exact getLast?_trim cs

section Marked

variable {label : String} {mark : List Char}

/-- In lower case, too, a marker is followed by blanks and the label behind it. -/
theorem exists_plain_append (ascii : IsAscii label.toList) (asciiMark : IsAscii mark)
    (front : ∀ c ∈ mark.head?, isBlank c = false) (back : ∀ c ∈ mark.getLast?, isBlank c = false)
    (some : mark ≠ []) : ∃ rest,
      plain (String.ofList mark ++ " " ++ label) = mark.map Char.toLower ++ rest ∧
        trimStart rest = plain label ∧ ∀ c ∈ rest.head?, c = ' ' := by
  have text : (String.ofList mark ++ " " ++ label).toList = mark ++ ' ' :: label.toList := by
    simp [String.toList_append]
  have asciiText : IsAscii (String.ofList mark ++ " " ++ label).toList := by
    rw [text]
    exact List.forall_mem_append.mpr ⟨asciiMark, List.forall_mem_cons.mpr ⟨by decide, ascii⟩⟩
  obtain ⟨gap, eq, blank, first⟩ := exists_trim_append front back some label.toList
  refine ⟨(gap ++ trim label.toList).map Char.toLower, ?_, ?_, ?_⟩
  · rw [plain_eq asciiText, text, eq, List.map_append]
  · have asciiGap : IsAscii gap := by
      have asciiTrim := isAscii_trim asciiText
      rw [text, eq] at asciiTrim
      exact fun c mem =>
        asciiTrim c (List.mem_append_right _ (List.mem_append_left _ mem))
    have blankLower : ∀ c ∈ gap.map Char.toLower, isBlank c = true := by
      intro c mem
      obtain ⟨d, inGap, rfl⟩ := List.mem_map.mp mem
      rw [isBlank_toLower (asciiGap d inGap)]
      exact blank d inGap
    have solid := head?_trim (plain label)
    rw [trim_plain ascii] at solid
    rw [List.map_append, ← plain_eq ascii]
    exact dropWhile_append_of_ends blankLower solid
  · intro c mem
    rw [List.head?_map] at mem
    obtain ⟨d, here, rfl⟩ := Option.mem_map.mp mem
    rw [first d here]
    rfl

/-- **A marker makes no difference** in front of a label without one. -/
theorem normalize_marker_append {c : Char} (ascii : IsAscii label.toList)
    (bare : ¬Accelerated (plain label)) (asciiMark : c.toNat < 128) (solid : isBlank c = false)
    (known : mark ∈ markers c) :
    normalize (String.ofList mark ++ " " ++ label) = normalize label := by
  obtain ⟨asciiMarks, front, back, some⟩ := marker_solid asciiMark solid mark known
  obtain ⟨rest, eq, behind, first⟩ := exists_plain_append ascii asciiMarks front back some
  have sameLine : c.toLower ≠ '\n' := by
    intro eq
    have blank := isBlank_toLower asciiMark
    rw [eq, solid] at blank
    cases blank
  have stripped := withoutMarker_append sameLine first _ (map_toLower_mem_markers mark known)
  rw [normalize_of_not_accelerated ascii bare]
  show String.ofList (trim (withoutMarker (plain _))) = _
  rw [eq, stripped, behind, trim_plain ascii]

end Marked

end Label

end Workflow
