import Workflow.Text.CaseData

/-!
# Lower case

Labels are compared in lower case.  Most letters have one lower-case partner,
found in `caseRuns`.  Two need more than the letter itself: the capital I with
a dot lowers to an i and a combining dot, and a capital sigma lowers to its
final form where a word ends.

## Main Definitions

* `lowerChar` — the partner of a letter, or the character itself.
* `lowercase` — a text in lower case.
-/

namespace Workflow.Text

/-- Whether the code point lies in one of the ranges. -/
def inRanges (ranges : List (Nat × Nat)) (c : Char) : Bool :=
  ranges.any fun range => range.1 ≤ c.toNat && c.toNat ≤ range.2

/-- The lower-case partner of a letter with one; any other character stays. -/
def lowerChar (c : Char) : Char :=
  let n := c.toNat
  match caseRuns.find? fun run =>
      run.first ≤ n && n ≤ run.last && (n - run.first) % run.stride == 0 with
  | some run => Char.ofNat ((n : Int) + run.shift).toNat
  | none => c

/-- Whether the first character that is not case-ignorable is a cased letter. -/
def meetsCased (cs : List Char) : Bool :=
  match cs.dropWhile (inRanges caseIgnorableRanges) with
  | [] => false
  | c :: _ => inRanges casedRanges c

/-- Lower case of the characters after `before`, which is kept backwards. -/
def lowercaseAfter (before : List Char) : List Char → List Char
  | [] => []
  | c :: cs =>
    if c = 'Σ' then
      (if meetsCased before && !meetsCased cs then 'ς' else 'σ') :: lowercaseAfter (c :: before) cs
    else if c = 'İ' then
      'i' :: '\u0307' :: lowercaseAfter (c :: before) cs
    else
      lowerChar c :: lowercaseAfter (c :: before) cs

/-- A text in lower case. -/
def lowercase (cs : List Char) : List Char := lowercaseAfter [] cs

end Workflow.Text
