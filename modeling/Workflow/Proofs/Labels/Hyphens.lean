import Workflow.Proofs.Labels
import Workflow.Proofs.Routing.Precedence

/-!
# Labels that begin with a letter and a hyphen

Markers are written `[Y] Yes`, `Y) Yes` and `Y - Yes`.  Of the last form more is stripped than
this: behind the dash no blank is asked for, so a word such as `e-mail` loses its first letter
and is compared like `mail`.  This file says exactly what labels without a marker, as markers
are written, are compared by.

## Main Definitions

* `Label.Marked` — texts that begin with a marker as it is written.
* `Label.Hyphenated` — texts that begin with a character and a dash.
* `Label.Kept` — what remains of a text without a marker.

## Main Statements

* `Label.exists_kept` — a label without a marker is compared by what is kept of it.
* `Label.unmarked_alike_iff` — which labels without a marker name the same choice.
* `Label.hyphen_misroutes` — a preferred label selects an edge with another label.
-/

namespace Workflow.Label

open Text

/-! ### Markers as they are written -/

/-- The text begins with a marker. -/
inductive Marked : List Char → Prop
  /-- A character in brackets. -/
  | bracketed {c : Char} {rest : List Char} : Marked ('[' :: c :: ']' :: rest)
  /-- A character in front of a closing parenthesis. -/
  | parenthesized {c : Char} {rest : List Char} : Marked (c :: ')' :: rest)
  /-- A character in front of a dash, behind which there is a blank. -/
  | dashed {c d : Char} {gap rest : List Char} (blank : ∀ e ∈ gap, isBlank e = true)
      (apart : isBlank d = true) : Marked (c :: (gap ++ '-' :: d :: rest))

/-- The text begins with a character and a dash, with blanks at most between them. -/
def Hyphenated (cs rest : List Char) : Prop :=
  ∃ c gap, (∀ d ∈ gap, isBlank d = true) ∧ cs = c :: (gap ++ '-' :: rest)

/-- What remains of a text without a marker. -/
inductive Kept (cs : List Char) : List Char → Prop
  /-- All of it, unless it begins with a character and a dash. -/
  | whole (unhyphenated : ∀ rest, ¬Hyphenated cs rest) : Kept cs cs
  /-- What stands behind that dash. -/
  | behind {rest : List Char} (hyphenated : Hyphenated cs rest) : Kept cs rest

section Texts

variable {cs rest rest' : List Char}

/-- Where to look for a marker. -/
theorem Marked.visible (marked : Marked cs) : cs[2]? = some ']' ∨ cs[1]? = some ')' ∨
    (trimStart cs.tail)[0]? = some '-' ∧ (trimStart cs.tail)[1]?.any isBlank = true := by
  cases marked with
  | bracketed => exact .inl rfl
  | parenthesized => exact .inr (.inl rfl)
  | dashed blank apart =>
      rw [List.tail_cons, trimStart_dash blank]
      exact .inr (.inr ⟨rfl, apart⟩)

/-- Where to look for the dash. -/
theorem Hyphenated.trimStart_tail (hyphenated : Hyphenated cs rest) :
    trimStart cs.tail = '-' :: rest := by
  obtain ⟨c, gap, blank, rfl⟩ := hyphenated
  exact trimStart_dash blank

/-- There is one place at most for the dash. -/
theorem Hyphenated.unique (one : Hyphenated cs rest) (other : Hyphenated cs rest') :
    rest = rest' := by
  have dash := one.trimStart_tail.symm.trans other.trimStart_tail
  exact (List.cons.inj dash).2

theorem Kept.unique (one : Kept cs rest) (other : Kept cs rest') : rest = rest' := by
  cases one with
  | whole unhyphenated =>
      cases other with
      | whole => rfl
      | behind hyphenated => exact absurd hyphenated (unhyphenated rest')
  | behind hyphenated =>
      cases other with
      | whole unhyphenated => exact absurd hyphenated (unhyphenated rest)
      | behind hyphenated' => exact hyphenated.unique hyphenated'

/-- Lowering makes no markers. -/
theorem marked_of_map_toLower (ascii : IsAscii cs) (marked : Marked (cs.map Char.toLower)) :
    Marked cs := by
  have same {c d : Char} (mem : c ∈ cs) (lower : c.toLower = d)
      (noLetter : d.isAlpha = false) : c = d :=
    (toLower_eq_iff (ascii c mem) noLetter).mp lower
  have blankOf {c : Char} (mem : c ∈ cs) (blank : isBlank c.toLower = true) : isBlank c = true :=
    (isBlank_toLower (ascii c mem)).symm.trans blank
  generalize lowered : cs.map Char.toLower = lower at marked
  cases marked with
  | bracketed =>
      obtain ⟨b, cs, rfl, opens, lowered⟩ := List.map_eq_cons_iff.mp lowered
      obtain ⟨c, cs, rfl, -, lowered⟩ := List.map_eq_cons_iff.mp lowered
      obtain ⟨b', cs, rfl, closes, -⟩ := List.map_eq_cons_iff.mp lowered
      obtain rfl := same (by simp) opens rfl
      obtain rfl := same (by simp) closes rfl
      exact .bracketed
  | parenthesized =>
      obtain ⟨c, cs, rfl, -, lowered⟩ := List.map_eq_cons_iff.mp lowered
      obtain ⟨b, cs, rfl, closes, -⟩ := List.map_eq_cons_iff.mp lowered
      obtain rfl := same (by simp) closes rfl
      exact .parenthesized
  | dashed blank apart =>
      obtain ⟨c, cs, rfl, -, lowered⟩ := List.map_eq_cons_iff.mp lowered
      obtain ⟨gap, cs, rfl, rfl, behind⟩ := List.map_eq_append_iff.mp lowered
      obtain ⟨b, cs, rfl, dash, behind⟩ := List.map_eq_cons_iff.mp behind
      obtain ⟨d, cs, rfl, rfl, -⟩ := List.map_eq_cons_iff.mp behind
      obtain rfl := same (by simp) dash rfl
      refine .dashed (fun e mem => ?_) (blankOf (by simp) apart)
      exact blankOf (by simp [mem]) (blank _ (List.mem_map_of_mem mem))

/-- What stands behind the dash is not in need of trimming, unless there is a marker. -/
theorem Hyphenated.trim_eq (hyphenated : Hyphenated cs rest) (unmarked : ¬Marked cs)
    (trimmed : trim cs = cs) : trim rest = rest := by
  obtain ⟨c, gap, blank, rfl⟩ := hyphenated
  refine trim_of_solid (fun d first => ?_) (fun d last => ?_)
  · obtain ⟨behind, rfl⟩ := List.head?_eq_some_iff.mp first
    exact Bool.eq_false_iff.mpr fun apart => unmarked (.dashed blank apart)
  · have solid := getLast?_trim (c :: (gap ++ '-' :: rest)) d
    rw [trimmed] at solid
    obtain ⟨front, rfl⟩ := List.getLast?_eq_some_iff.mp last
    have split : c :: (gap ++ '-' :: (front ++ [d])) = c :: (gap ++ '-' :: front) ++ [d] := by simp
    rw [split] at solid
    exact solid List.getLast?_concat

/-- Of a text without a marker, what is taken for one is a character and a dash. -/
theorem kept_withoutMarker (unmarked : ¬Marked cs) (trimmed : trim cs = cs) :
    Kept cs (withoutMarker cs) := by
  unfold withoutMarker
  split
  · next rest found =>
      obtain ⟨c, behind, -, rfl, -⟩ := bracketed?_eq_some_iff.mp found
      exact absurd .bracketed unmarked
  · split
    · next rest found =>
        obtain ⟨c, behind, -, rfl, -⟩ := parenthesized?_eq_some_iff.mp found
        exact absurd .parenthesized unmarked
    · split
      · next rest found =>
          obtain ⟨c, gap, behind, -, blank, rfl, rfl⟩ := dashed?_eq_some_iff.mp found
          have hyphenated : Hyphenated (c :: (gap ++ '-' :: behind)) behind := ⟨c, gap, blank, rfl⟩
          have solid := head?_trim behind
          rw [hyphenated.trim_eq unmarked trimmed] at solid
          rw [trimStart_of_solid solid]
          exact .behind hyphenated
      · next none =>
          refine .whole fun rest ⟨c, gap, blank, eq⟩ => ?_
          have sameLine : c ≠ '\n' := by
            rintro rfl
            have solid := head?_trim cs
            rw [trimmed, eq] at solid
            exact absurd (solid '\n' rfl) (by decide)
          have found := dashed?_eq_some_iff.mpr ⟨c, gap, rest, sameLine, blank, eq, rfl⟩
          rw [none] at found
          cases found

end Texts

/-! ### Labels -/

section Labels

variable {label a b : String}

/-- **A label without a marker is compared by what is kept of it.** -/
theorem exists_kept (ascii : IsAscii label.toList) (unmarked : ¬Marked (trim label.toList)) :
    ∃ kept, Kept (plain label) kept ∧ normalize label = String.ofList kept := by
  have unmarked' : ¬Marked (plain label) := by
    rw [plain_eq ascii]
    exact fun marked => unmarked (marked_of_map_toLower (isAscii_trim ascii) marked)
  have trimmed := trim_plain ascii
  have kept := kept_withoutMarker unmarked' trimmed
  refine ⟨_, kept, congrArg String.ofList ?_⟩
  show trim (withoutMarker (plain label)) = _
  generalize withoutMarker (plain label) = rest at kept
  cases kept with
  | whole => exact trimmed
  | behind hyphenated => exact hyphenated.trim_eq unmarked' trimmed

/-- The second preference finds edges whose labels are compared by the same text. -/
theorem normalize_of_preferred? {edges : List Edge} {e : Edge}
    (preferred : Routing.preferred? label edges = some e) :
    normalize e.label = normalize label := by
  unfold Routing.preferred? at preferred
  split at preferred
  · cases preferred
  · have found := List.find?_some preferred
    simp only [Bool.and_eq_true, beq_iff_eq] at found
    exact found.2

/-- **Which labels name the same choice.**  Two labels without a marker are compared by what is kept
of them, so where neither begins with a character and a dash they name the same choice if and only
if they are the same text but for case and the blanks around them.  An edge that a label prefers has
a label of which the same is kept. -/
theorem unmarked_alike_iff (asciiA : IsAscii a.toList) (asciiB : IsAscii b.toList)
    (unmarkedA : ¬Marked (trim a.toList)) (unmarkedB : ¬Marked (trim b.toList)) :
    (normalize a = normalize b ↔ ∃ kept, Kept (plain a) kept ∧ Kept (plain b) kept) ∧
    ((∀ rest, ¬Hyphenated (plain a) rest) → (∀ rest, ¬Hyphenated (plain b) rest) →
      (normalize a = normalize b ↔ plain a = plain b)) ∧
    ∀ edges e, Routing.preferred? a edges = some e → e.label = b →
      ∃ kept, Kept (plain a) kept ∧ Kept (plain b) kept := by
  obtain ⟨keptA, kept, eq⟩ := exists_kept asciiA unmarkedA
  obtain ⟨keptB, kept', eq'⟩ := exists_kept asciiB unmarkedB
  have alike : normalize a = normalize b ↔ keptA = keptB := by
    rw [eq, eq']
    exact ⟨fun same => String.ofList_injective same, congrArg String.ofList⟩
  have shared : normalize a = normalize b ↔
      ∃ kept, Kept (plain a) kept ∧ Kept (plain b) kept := by
    rw [alike]
    constructor
    · rintro rfl
      exact ⟨keptA, kept, kept'⟩
    · rintro ⟨one, keptOne, keptOne'⟩
      rw [kept.unique keptOne, kept'.unique keptOne']
  refine ⟨shared, fun whole whole' => ?_, fun edges e preferred named => ?_⟩
  · rw [alike, kept.unique (.whole whole), kept'.unique (.whole whole')]
  · rw [← shared, ← named]
    exact (normalize_of_preferred? preferred).symm

/-- Neither `e-mail` nor `mail` has a marker. -/
theorem mail_unmarked : IsAscii "e-mail".toList ∧ IsAscii "mail".toList ∧
    ¬Marked (trim "e-mail".toList) ∧ ¬Marked (trim "mail".toList) := by
  refine ⟨by decide +kernel, by decide +kernel, fun marked => ?_, fun marked => ?_⟩
  · exact absurd marked.visible (by decide +kernel)
  · exact absurd marked.visible (by decide +kernel)

/-- Of `e-mail` as much is kept as of `mail`. -/
theorem unmarked_alike_mail :
    (IsAscii "e-mail".toList ∧ IsAscii "mail".toList ∧ ¬Marked (trim "e-mail".toList) ∧
      ¬Marked (trim "mail".toList)) ∧ normalize "e-mail" = normalize "mail" := by
  refine ⟨mail_unmarked, ?_⟩
  obtain ⟨ascii, ascii', unmarked, unmarked'⟩ := mail_unmarked
  have kept : Kept (plain "e-mail") "mail".toList := by
    have text : plain "e-mail" = "e-mail".toList := by decide +kernel
    rw [text]
    exact .behind ⟨'e', [], List.forall_mem_nil _, rfl⟩
  have kept' : Kept (plain "mail") "mail".toList := by
    have text : plain "mail" = "mail".toList := by decide +kernel
    rw [text]
    refine .whole fun rest hyphenated => ?_
    have dash : (trimStart "mail".toList.tail).head? = some '-' :=
      congrArg List.head? hyphenated.trimStart_tail
    exact absurd dash (by decide +kernel)
  exact (unmarked_alike_iff ascii ascii' unmarked unmarked').1.mpr ⟨_, kept, kept'⟩

/-- The choices `e-mail` and `mail`. -/
def postGraph : Graph :=
  ⟨"post", .empty,
    .ofList [("a", ⟨"a", .empty⟩), ("b", ⟨"b", .empty⟩), ("c", ⟨"c", .empty⟩)],
    [⟨"a", "b", .ofList [("label", .text "e-mail")]⟩,
      ⟨"a", "c", .ofList [("label", .text "mail")]⟩]⟩

/-- Without a marker in any label, the label `mail` selects the edge with the label `e-mail`, and
not the one that has this label. -/
theorem hyphen_misroutes :
    (IsAscii "e-mail".toList ∧ IsAscii "mail".toList ∧ ¬Marked (trim "e-mail".toList) ∧
      ¬Marked (trim "mail".toList)) ∧
    normalize "e-mail" = normalize "mail" ∧ plain "e-mail" ≠ plain "mail" ∧
    (Routing.select? postGraph "a" (.withLabel .success "mail") .empty).map
      (fun e => (e.target, e.label)) = some ("b", "e-mail") ∧
    (postGraph.outgoing "a").map (·.label) = ["e-mail", "mail"] := by
  refine ⟨mail_unmarked, ?_⟩
  decide +kernel

end Labels

end Workflow.Label
