/-!
# Blank characters

The characters that separate words: the `White_Space` characters of the
character database.  Source texts, conditions, labels, durations and numbers
all skip the same set.

## Main Definitions

* `isBlank` — the blank characters.
* `trimStart`, `trimEnd`, `trim` — a text without the blanks at its ends.
-/

namespace Workflow.Text

/-- The `White_Space` characters. -/
def isBlank (c : Char) : Bool :=
  let n := c.toNat
  (9 ≤ n && n ≤ 13) || n == 0x20 || n == 0x85 || n == 0xA0 || n == 0x1680 ||
    (0x2000 ≤ n && n ≤ 0x200A) || n == 0x2028 || n == 0x2029 || n == 0x202F || n == 0x205F ||
    n == 0x3000

/-- The characters from the first that is not blank. -/
def trimStart (cs : List Char) : List Char := cs.dropWhile isBlank

/-- The characters up to the last that is not blank. -/
def trimEnd (cs : List Char) : List Char := (trimStart cs.reverse).reverse

/-- The characters from the first to the last that is not blank. -/
def trim (cs : List Char) : List Char := trimEnd (trimStart cs)

@[simp] theorem trimStart_nil : trimStart [] = [] := rfl

@[simp] theorem trim_nil : trim [] = [] := rfl

theorem trimStart_cons_of_blank {c : Char} (blank : isBlank c = true) (cs : List Char) :
    trimStart (c :: cs) = trimStart cs := by
  simp [trimStart, blank]

theorem trimStart_cons_of_not_blank {c : Char} (solid : isBlank c = false) (cs : List Char) :
    trimStart (c :: cs) = c :: cs := by
  simp [trimStart, solid]

/-- What remains after trimming the front starts with no blank. -/
theorem not_isBlank_of_trimStart_eq_cons {cs rest : List Char} {c : Char}
    (h : trimStart cs = c :: rest) : isBlank c = false := by
  induction cs with
  | nil => simp at h
  | cons d ds ih =>
    cases blank : isBlank d with
    | true => exact ih (trimStart_cons_of_blank blank ds ▸ h)
    | false =>
      rw [trimStart_cons_of_not_blank blank] at h
      injection h with eq _
      exact eq ▸ blank

end Workflow.Text
