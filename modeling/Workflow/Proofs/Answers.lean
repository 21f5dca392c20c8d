import Mathlib.Data.String.Basic
import Workflow.Answer
import Workflow.Proofs.Splitting

/-!
# Which markers of an answer are read

An answer is searched from its front, so of several markers the one that stands first is read.
The search is for texts that are markers in full: an unknown status, a label without a text or
without its closing bracket is passed over, and what stands behind it is searched like the rest.

## Main Definitions

* `Answer.statusMarker`, `Answer.labelMarker` — the markers.
* `Answer.IsLeftmost`, `Answer.IsAbsent` — where markers stand in an answer.

## Main Statements

* `Text.leftmost?_eq_some_iff` — what is read at the first place where anything can be read.
* `Answer.statusAt?_eq_some_iff`, `Answer.labelAt?_eq_some_iff` — the markers at the front of a
  text.
* `Answer.reads_leftmost` — an outcome says what the first markers of the answer say.
-/

namespace Workflow

/-! ### Searching from the front -/

namespace Text

variable {α : Type} {read : List Char → Option α} {cs : List Char}

/-- **What is found was read at some place**, and nothing can be read in front of it. -/
theorem leftmost?_eq_some_iff {found : α} : leftmost? read cs = some found ↔
    ∃ n, read (cs.drop n) = some found ∧ ∀ m < n, read (cs.drop m) = none := by
  have atFront {cs : List Char} (here : read cs = some found) :
      ∃ n, read (cs.drop n) = some found ∧ ∀ m < n, read (cs.drop m) = none :=
    ⟨0, here, fun m lt => absurd lt (Nat.not_lt_zero m)⟩
  induction cs with
  | nil =>
      rw [leftmost?]
      refine ⟨atFront, fun ⟨n, there, _⟩ => ?_⟩
      rwa [List.drop_nil] at there
  | cons c cs ih =>
      rw [leftmost?]
      cases here : read (c :: cs) with
      | some first =>
          constructor
          · intro eq
            exact atFront (here.trans eq)
          · rintro ⟨n, there, nothing⟩
            cases n with
            | zero => exact here.symm.trans there
            | succ n => exact absurd (nothing 0 (Nat.succ_pos n)) (by simp [here])
      | none =>
          refine ih.trans ⟨fun ⟨n, there, nothing⟩ => ⟨n + 1, there, fun m lt => ?_⟩, ?_⟩
          · cases m with
            | zero => exact here
            | succ m => exact nothing m (Nat.lt_of_succ_lt_succ lt)
          · rintro ⟨n, there, nothing⟩
            cases n with
            | zero => exact absurd there (by simp [here])
            | succ n => exact ⟨n, there, fun m lt => nothing (m + 1) (Nat.succ_lt_succ lt)⟩

/-- Nothing is found where nothing can be read at any place. -/
theorem leftmost?_eq_none_iff : leftmost? read cs = none ↔ ∀ n, read (cs.drop n) = none := by
  induction cs with
  | nil => simp only [leftmost?, List.drop_nil, forall_const]
  | cons c cs ih =>
      rw [leftmost?, ← Nat.and_forall_add_one]
      cases here : read (c :: cs) with
      | some first => simp [here]
      | none => simp [here, ih]

end Text

theorem Status.mem_all (s : Status) : s ∈ all := by
  cases s <;> decide

namespace Answer

open Text

/-! ### Markers -/

/-- A label that a marker can hold. -/
structure MarkedLabel where
  /-- The text of the label. -/
  text : String
  /-- It is not empty. -/
  nonempty : text ≠ ""
  /-- The bracket that closes the marker is not in it. -/
  noBracket : ']' ∉ text.toList

/-- The marker for a status. -/
def statusMarker (s : Status) : String := "[outcome:" ++ s.name ++ "]"

/-- The marker for a label. -/
def labelMarker (label : MarkedLabel) : String := "[preferred_label:" ++ label.text ++ "]"

/-- The marker stands in the answer behind `n` characters. -/
def StandsAt (answer : String) (n : Nat) (marker : String) : Prop :=
  marker.toList <+: answer.toList.drop n

/-- Of all markers of a kind this one stands first. -/
def IsLeftmost {α : Type} (marker : α → String) (answer : String) (a : α) : Prop :=
  ∃ n, StandsAt answer n (marker a) ∧ ∀ m < n, ∀ b, ¬StandsAt answer m (marker b)

/-- No marker of a kind stands in the answer. -/
def IsAbsent {α : Type} (marker : α → String) (answer : String) : Prop :=
  ∀ n a, ¬StandsAt answer n (marker a)

variable {cs : List Char}

theorem toList_closing : "]".toList = [']'] := rfl

theorem toList_statusMarker (s : Status) :
    (statusMarker s).toList = outcomeMark ++ (s.name.toList ++ [']']) := by
  unfold statusMarker outcomeMark
  rw [String.toList_append, String.toList_append, List.append_assoc, toList_closing]

theorem toList_labelMarker (label : MarkedLabel) :
    (labelMarker label).toList = labelMark ++ (label.text.toList ++ [']']) := by
  unfold labelMarker labelMark
  rw [String.toList_append, String.toList_append, List.append_assoc, toList_closing]

theorem isSome_after?_iff {pattern : List Char} :
    (after? pattern cs).isSome = true ↔ pattern <+: cs := by
  rw [← Option.ne_none_iff_isSome, ne_eq, after?_eq_none_iff, not_not]

/-- At most one name of a status stands in front of a closing bracket. -/
theorem name_unique {s s' : Status} (one : s.name.toList ++ [']'] <+: cs)
    (other : s'.name.toList ++ [']'] <+: cs) : s = s' := by
  have apart : ∀ s ∈ Status.all, ∀ s' ∈ Status.all,
      s.name.toList ++ [']'] <+: s'.name.toList ++ [']'] → s = s' := by decide +kernel
  rcases List.prefix_or_prefix_of_prefix one other with front | front
  · exact apart s s.mem_all s' s'.mem_all front
  · exact (apart s' s'.mem_all s s.mem_all front).symm

/-- A status is read where its marker stands. -/
theorem statusAt?_eq_some_iff {s : Status} :
    statusAt? cs = some s ↔ (statusMarker s).toList <+: cs := by
  simp only [statusAt?, Option.bind_eq_some_iff, after?_eq_some_iff, toList_statusMarker]
  constructor
  · rintro ⟨rest, rfl, found⟩
    have here := List.find?_some found
    exact (List.prefix_append_right_inj _).mpr (isSome_after?_iff.mp here)
  · rintro ⟨rest, rfl⟩
    rw [List.append_assoc]
    refine ⟨_, rfl, ?_⟩
    have here : s.name.toList ++ [']'] <+: s.name.toList ++ [']'] ++ rest := List.prefix_append _ _
    cases found : Status.all.find? fun s' =>
        (after? (s'.name.toList ++ [']']) (s.name.toList ++ [']'] ++ rest)).isSome with
    | none =>
        have absent := List.find?_eq_none.mp found s s.mem_all
        exact absurd (isSome_after?_iff.mpr here) absent
    | some s' =>
        have there := List.find?_some found
        rw [name_unique here (isSome_after?_iff.mp there)]

/-- A text reaches up to the first bracket if it is in front of one and none is in it. -/
theorem upTo_bracket_iff {text rest : List Char} :
    (rest.takeWhile (· != ']') = text ∧ ∃ b back, rest.dropWhile (· != ']') = b :: back) ↔
      ']' ∉ text ∧ text ++ [']'] <+: rest := by
  constructor
  · rintro ⟨rfl, b, back, behind⟩
    have closing := List.head?_dropWhile_not (· != ']') rest
    simp only [behind, List.head?_cons, bne_eq_false_iff_eq] at closing
    refine ⟨fun mem => absurd (List.mem_takeWhile_imp mem) (by decide), back, ?_⟩
    have split : rest.takeWhile (· != ']') ++ rest.dropWhile (· != ']') = rest :=
      List.takeWhile_append_dropWhile
    rwa [behind, closing, List.append_cons] at split
  · rintro ⟨noBracket, back, rfl⟩
    have inside : ∀ c ∈ text, (c != ']') = true := by
      intro c mem
      rw [bne_iff_ne]
      rintro rfl
      exact noBracket mem
    have ends : ∀ c ∈ (']' :: back).head?, (c != ']') = false := by simp
    rw [List.append_assoc, List.singleton_append]
    exact ⟨takeWhile_append_of_ends inside ends, ']', back, dropWhile_append_of_ends inside ends⟩

/-- A label is read where its marker stands. -/
theorem labelAt?_eq_some_iff {label : List Char} : labelAt? cs = some label ↔
    ∃ marked : MarkedLabel, marked.text.toList = label ∧ (labelMarker marked).toList <+: cs := by
  simp only [labelAt?, Option.bind_eq_some_iff, after?_eq_some_iff, toList_labelMarker]
  constructor
  · rintro ⟨rest, rfl, found⟩
    split at found
    · next c front b back upTo behind =>
        cases found
        obtain ⟨noBracket, here⟩ := upTo_bracket_iff.mp ⟨upTo, b, back, behind⟩
        refine ⟨⟨String.ofList (c :: front), ?_, ?_⟩, ?_, ?_⟩
        · simp
        · rwa [String.toList_ofList]
        · exact String.toList_ofList
        · rw [String.toList_ofList]
          exact (List.prefix_append_right_inj _).mpr here
    · cases found
  · rintro ⟨⟨text, nonempty, noBracket⟩, rfl, rest, rfl⟩
    rw [List.append_assoc]
    refine ⟨_, rfl, ?_⟩
    obtain ⟨upTo, b, back, behind⟩ :=
      upTo_bracket_iff.mpr ⟨noBracket, List.prefix_append (text.toList ++ [']']) rest⟩
    obtain ⟨c, front, split⟩ := List.exists_cons_of_ne_nil (mt String.toList_eq_nil_iff.mp nonempty)
    rw [split] at upTo behind ⊢
    simp only [upTo, behind]

/-- What a search finds, if the readings at a place are the markers that stand there. -/
theorem leftmost?_getD_eq_iff {α β : Type} {read : List Char → Option β} {marker : α → String}
    {view : α → β}
    (reads : ∀ cs found, read cs = some found ↔ ∃ a, view a = found ∧ (marker a).toList <+: cs)
    (answer : String) (fallback found : β) :
    (leftmost? read answer.toList).getD fallback = found ↔
      (∃ a, view a = found ∧ IsLeftmost marker answer a) ∨
        found = fallback ∧ IsAbsent marker answer := by
  have nothing (cs : List Char) : read cs = none ↔ ∀ a, ¬(marker a).toList <+: cs := by
    simp only [Option.eq_none_iff_forall_ne_some, ne_eq, reads, not_exists, not_and]
    exact ⟨fun none a => none _ a rfl, fun none _ a _ => none a⟩
  have absent : leftmost? read answer.toList = none ↔ IsAbsent marker answer := by
    simp only [leftmost?_eq_none_iff, nothing, IsAbsent, StandsAt]
  have first : leftmost? read answer.toList = some found ↔
      ∃ a, view a = found ∧ IsLeftmost marker answer a := by
    simp only [leftmost?_eq_some_iff, nothing, reads, IsLeftmost, StandsAt]
    constructor
    · rintro ⟨n, ⟨a, same, here⟩, others⟩
      exact ⟨a, same, n, here, others⟩
    · rintro ⟨a, same, n, here, others⟩
      exact ⟨n, ⟨a, same, here⟩, others⟩
  rw [← absent, ← first]
  cases leftmost? read answer.toList with
  | none => simp [eq_comm]
  | some other => simp

/-- **An outcome says what the first markers of the answer say.**  Its status is that of the status
marker that stands first, and success if there is none.  Its label is that of the label marker
that stands first, and empty if there is none.  Nothing else is read. -/
theorem reads_leftmost (answer : String) :
    (∀ s, (outcome answer).status = s ↔
      IsLeftmost statusMarker answer s ∨ s = .success ∧ IsAbsent statusMarker answer) ∧
    (∀ label, (outcome answer).preferredLabel = label ↔
      (∃ marked : MarkedLabel, marked.text = label ∧ IsLeftmost labelMarker answer marked) ∨
        label = "" ∧ IsAbsent labelMarker answer) ∧
    (outcome answer).suggested = [] ∧ (outcome answer).updates = .empty ∧
    (outcome answer).notes = "" ∧ (outcome answer).failureReason = none := by
  refine ⟨fun s => ?status, fun label => ?label, rfl, rfl, rfl, rfl⟩
  case status =>
    have reads (cs : List Char) (s : Status) :
        statusAt? cs = some s ↔ ∃ s', s' = s ∧ (statusMarker s').toList <+: cs := by
      rw [statusAt?_eq_some_iff, exists_eq_left]
    have found := leftmost?_getD_eq_iff reads answer .success s
    rwa [exists_eq_left] at found
  case label =>
    have found := leftmost?_getD_eq_iff (fun _ _ => labelAt?_eq_some_iff) answer [] label.toList
    rw [String.toList_eq_nil_iff] at found
    simp only [String.toList_inj] at found
    rw [← found]
    exact String.ofList_eq

/-- What is no marker in full is passed over. -/
example : (outcome "[outcome:ok] [outcome:fail] [outcome:retry]").status = .fail ∧
    (outcome "[preferred_label:] [preferred_label:a [b]").preferredLabel = "a [b" := by
  decide +kernel

end Answer

end Workflow
