/-!
# Finding and cutting texts

Searching a list of characters for the first place where another text stands,
and what is built on it: cutting at a separator and putting one text in the
place of another.

## Main Definitions

* `after? pattern cs` — what follows `pattern` at the front of `cs`.
* `cut? pattern cs` — the parts of `cs` before and after the first occurrence
  of `pattern`.
* `split`, `replace` — the parts between all occurrences, taken from the left
  and without overlap.

## Design Notes

`split` recurs on the part after an occurrence, which is shorter because the
separator is not empty (`cut?_eq_append`).
-/

namespace Workflow.Text

/-- What follows `pattern` when `cs` starts with it. -/
def after? : (pattern cs : List Char) → Option (List Char)
  | [], cs => some cs
  | _ :: _, [] => none
  | p :: ps, c :: cs => if p = c then after? ps cs else none

theorem after?_eq_some_iff {pattern cs rest : List Char} :
    after? pattern cs = some rest ↔ cs = pattern ++ rest := by
  induction pattern generalizing cs with
  | nil => simp [after?, eq_comm]
  | cons p ps ih =>
    cases cs with
    | nil => simp [after?]
    | cons c cs =>
      simp only [after?, List.cons_append, List.cons.injEq]
      split
      · next eq => simp [ih, eq]
      · next ne => simp [Ne.symm ne]

/-- The parts before and after the first occurrence of `pattern`. -/
def cut? (pattern : List Char) : List Char → Option (List Char × List Char)
  | [] => (after? pattern []).map fun rest => ([], rest)
  | c :: cs =>
    match after? pattern (c :: cs) with
    | some rest => some ([], rest)
    | none => (cut? pattern cs).map fun parts => (c :: parts.1, parts.2)

/-- A cut loses only the pattern. -/
theorem cut?_eq_append {pattern cs before after : List Char}
    (h : cut? pattern cs = some (before, after)) : cs = before ++ (pattern ++ after) := by
  induction cs generalizing before with
  | nil =>
    simp only [cut?, Option.map_eq_some_iff, Prod.mk.injEq] at h
    obtain ⟨rest, found, rfl, rfl⟩ := h
    simpa using after?_eq_some_iff.mp found
  | cons c cs ih =>
    simp only [cut?] at h
    split at h
    · next rest found =>
      simp only [Option.some.injEq, Prod.mk.injEq] at h
      obtain ⟨rfl, rfl⟩ := h
      simpa using after?_eq_some_iff.mp found
    · simp only [Option.map_eq_some_iff, Prod.mk.injEq] at h
      obtain ⟨parts, found, rfl, rfl⟩ := h
      rw [ih found]
      rfl

/-- The parts of `cs` between the occurrences of `separator`. -/
def split (separator : List Char) (nonempty : separator ≠ []) (cs : List Char) :
    List (List Char) :=
  match found : cut? separator cs with
  | none => [cs]
  | some (before, after) =>
    have : after.length < cs.length := by
      have eq := congrArg List.length (cut?_eq_append found)
      have pos := List.length_pos_iff.mpr nonempty
      simp only [List.length_append] at eq
      omega
    before :: split separator nonempty after
termination_by cs.length

/-- `cs` with `replacement` in the place of each occurrence of `pattern`. -/
def replace (pattern : List Char) (nonempty : pattern ≠ []) (replacement cs : List Char) :
    List Char :=
  replacement.intercalate (split pattern nonempty cs)

end Workflow.Text
