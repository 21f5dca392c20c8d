import Workflow.Json.Literal
import Workflow.Text.Search

/-!
# Reading JSON

The JSON grammar over lists of characters.

## Main Definitions

* `Json.Reading.Reader` — takes a value off the front of a text, and at least
  one character with it.
* `Json.Reading.value` — the reader of values that nest no deeper than a bound.
* `Json.parse?` — the value of a whole text.

## Design Notes

Values nest, so their reader recurs on a bound for the nesting.  A text cannot
nest deeper than it is long, which makes its length a bound that no text can
feel.  Sequences recur on the text, which every reader makes shorter.
-/

namespace Workflow.Json.Reading

/-- A value and the text behind it. -/
structure Read (α : Type) (cs : List Char) where
  /-- The value. -/
  value : α
  /-- The text behind it. -/
  rest : List Char
  /-- At least one character was taken. -/
  shorter : rest.length < cs.length

/-- Takes a value off the front of a text. -/
abbrev Reader (α : Type) := (cs : List Char) → Option (Read α cs)

/-- The same value read from a longer text. -/
def Read.widen {α : Type} {cs ds : List Char} (r : Read α cs) (h : cs.length ≤ ds.length) :
    Read α ds :=
  ⟨r.value, r.rest, Nat.lt_of_lt_of_le r.shorter h⟩

/-- The same reading with another value. -/
def Read.map {α β : Type} {cs : List Char} (f : α → β) (r : Read α cs) : Read β cs :=
  ⟨f r.value, r.rest, r.shorter⟩

/-! ### Blanks -/

/-- The blanks of JSON. -/
def isSpace (c : Char) : Bool := c == ' ' || c == '\n' || c == '\t' || c == '\r'

/-- The text from the first character that is no blank. -/
def skip (cs : List Char) : List Char := cs.dropWhile isSpace

theorem length_skip_le (cs : List Char) : (skip cs).length ≤ cs.length := by
  unfold skip
  induction cs with
  | nil => exact Nat.le_refl _
  | cons c cs ih =>
    rw [List.dropWhile_cons]
    split
    · exact Nat.le_succ_of_le ih
    · exact Nat.le_refl _

/-! ### Strings -/

/-- The number of a hexadecimal digit. -/
def hexValue? (c : Char) : Option Nat :=
  if '0' ≤ c ∧ c ≤ '9' then some (c.toNat - 48)
  else if 'a' ≤ c ∧ c ≤ 'f' then some (c.toNat - 87)
  else if 'A' ≤ c ∧ c ≤ 'F' then some (c.toNat - 55)
  else none

/-- The number of four hexadecimal digits. -/
def hex4? (a b c d : Char) : Option Nat := do
  let a ← hexValue? a
  let b ← hexValue? b
  let c ← hexValue? c
  let d ← hexValue? d
  return ((a * 16 + b) * 16 + c) * 16 + d

/-- The character that a one-letter escape stands for. -/
def shortEscape? (c : Char) : Option Char :=
  match c with
  | '"' => some '"'
  | '\\' => some '\\'
  | '/' => some '/'
  | 'b' => some '\x08'
  | 'f' => some '\x0c'
  | 'n' => some '\n'
  | 'r' => some '\r'
  | 't' => some '\t'
  | _ => none

/-- The code units of a string behind its opening quote, and the text behind its closing one.  A
character stands for its code point, a numeric escape for the unit it names. -/
def units? : List Char → Option (List Nat × List Char)
  | [] => none
  | '"' :: cs => some ([], cs)
  | '\\' :: 'u' :: a :: b :: c :: d :: cs =>
    match hex4? a b c d with
    | none => none
    | some n => (units? cs).map (Prod.map (n :: ·) id)
  | '\\' :: e :: cs =>
    match shortEscape? e with
    | none => none
    | some c => (units? cs).map (Prod.map (c.toNat :: ·) id)
  | c :: cs => if c.toNat < 0x20 then none else (units? cs).map (Prod.map (c.toNat :: ·) id)

/-- Whether a code unit is the first half of a pair. -/
def isHigh (n : Nat) : Bool := 0xD800 ≤ n && n < 0xDC00

/-- Whether a code unit is the second half of a pair. -/
def isLow (n : Nat) : Bool := 0xDC00 ≤ n && n < 0xE000

/-- The characters of code units, when every half of a pair has its other half. -/
def charsOfUnits? : List Nat → Option (List Char)
  | [] => some []
  | [n] => if isHigh n || isLow n then none else some [Char.ofNat n]
  | n :: m :: rest =>
    if isLow n then none
    else if isHigh n then
      if isLow m then
        (charsOfUnits? rest).map (Char.ofNat (0x10000 + (n - 0xD800) * 0x400 + (m - 0xDC00)) :: ·)
      else none
    else (charsOfUnits? (m :: rest)).map (Char.ofNat n :: ·)

theorem units?_shorter {cs rest : List Char} {units : List Nat}
    (h : units? cs = some (units, rest)) : rest.length < cs.length := by
  fun_induction units? cs generalizing units rest with
  | case1 => cases h
  | case2 => simp_all
  | case3 => cases h
  | case4 a b c d cs n found ih =>
    simp only [Option.map_eq_some_iff, Prod.map, id] at h
    obtain ⟨pair, read, eq⟩ := h
    have := ih read
    simp only [Prod.mk.injEq] at eq
    simp only [List.length_cons, ← eq.2]
    omega
  | case5 => cases h
  | case6 e cs c _ _ ih =>
    simp only [Option.map_eq_some_iff, Prod.map, id] at h
    obtain ⟨pair, read, eq⟩ := h
    have := ih read
    simp only [Prod.mk.injEq] at eq
    simp only [List.length_cons, ← eq.2]
    omega
  | case7 => cases h
  | case8 c cs _ _ _ _ ih =>
    simp only [Option.map_eq_some_iff, Prod.map, id] at h
    obtain ⟨pair, read, eq⟩ := h
    have := ih read
    simp only [Prod.mk.injEq] at eq
    simp only [List.length_cons, ← eq.2]
    omega

/-- A string; `none` stands for one that holds no text. -/
def string : Reader (Option String)
  | [] => none
  | c :: cs =>
    if c = '"' then
      match found : units? cs with
      | none => none
      | some (units, rest) =>
        some ⟨(charsOfUnits? units).map String.ofList, rest,
          Nat.lt_succ_of_lt (units?_shorter found)⟩
    else none

/-! ### Numbers -/

/-- The digits behind a point, if a point stands in front. -/
def fractionOf? : List Char → Option (Option (List Char) × List Char)
  | '.' :: cs =>
    let ds := cs.takeWhile Char.isDigit
    if ds = [] then none else some (some ds, cs.dropWhile Char.isDigit)
  | cs => some (none, cs)

/-- The exponent, if a mark for one stands in front. -/
def exponentOf? : List Char → Option (Option (Bool × List Char) × List Char)
  | [] => some (none, [])
  | c :: cs =>
    if c = 'e' ∨ c = 'E' then
      let (negative, unsigned) := Decimal.signOf cs
      let ds := unsigned.takeWhile Char.isDigit
      if ds = [] then none else some (some (negative, ds), unsigned.dropWhile Char.isDigit)
    else some (none, c :: cs)

/-- A number without its sign: no zero may lead other digits. -/
def unsigned? (negative : Bool) (cs : List Char) : Option (Literal × List Char) :=
  let whole := cs.takeWhile Char.isDigit
  if whole = [] ∨ (whole.head? = some '0' ∧ whole ≠ ['0']) then none
  else
    (fractionOf? (cs.dropWhile Char.isDigit)).bind fun (fraction, behind) =>
      (exponentOf? behind).map fun (exponent, rest) =>
        (⟨negative, whole, fraction, exponent⟩, rest)

/-- A number with its sign. -/
def literal? : List Char → Option (Literal × List Char)
  | '-' :: cs => unsigned? true cs
  | cs => unsigned? false cs

theorem length_takeWhile_add_dropWhile (p : Char → Bool) (cs : List Char) :
    (cs.takeWhile p).length + (cs.dropWhile p).length = cs.length := by
  rw [← List.length_append, List.takeWhile_append_dropWhile]

theorem fractionOf?_shorter {cs rest : List Char} {fraction : Option (List Char)}
    (h : fractionOf? cs = some (fraction, rest)) : rest.length ≤ cs.length := by
  unfold fractionOf? at h
  split at h
  · next cs =>
    have := length_takeWhile_add_dropWhile Char.isDigit cs
    dsimp only at h
    split at h
    · cases h
    · simp only [Option.some.injEq, Prod.mk.injEq] at h
      rw [← h.2, List.length_cons]
      omega
  · simp_all

theorem exponentOf?_shorter {cs rest : List Char} {exponent : Option (Bool × List Char)}
    (h : exponentOf? cs = some (exponent, rest)) : rest.length ≤ cs.length := by
  cases cs with
  | nil => simp_all [exponentOf?]
  | cons c cs =>
    simp only [exponentOf?] at h
    split at h
    · have signed : (Decimal.signOf cs).2.length ≤ cs.length := by
        unfold Decimal.signOf
        split <;> simp
      have := length_takeWhile_add_dropWhile Char.isDigit (Decimal.signOf cs).2
      split at h
      · cases h
      · simp only [Option.some.injEq, Prod.mk.injEq] at h
        rw [← h.2, List.length_cons]
        omega
    · simp_all

theorem unsigned?_shorter {negative : Bool} {cs rest : List Char} {l : Literal}
    (h : unsigned? negative cs = some (l, rest)) : rest.length < cs.length := by
  unfold unsigned? at h
  dsimp only at h
  split at h
  · cases h
  · next proper =>
    simp only [Option.bind_eq_some_iff, Option.map_eq_some_iff, Prod.mk.injEq] at h
    obtain ⟨⟨fraction, behind⟩, fractioned, ⟨exponent, rest'⟩, exponented, _, rfl⟩ := h
    have first := length_takeWhile_add_dropWhile Char.isDigit cs
    have second := fractionOf?_shorter fractioned
    have third := exponentOf?_shorter exponented
    dsimp only at third ⊢
    have positive := List.length_pos_iff.mpr fun empty => proper (.inl empty)
    omega

theorem literal?_shorter {cs rest : List Char} {l : Literal}
    (h : literal? cs = some (l, rest)) : rest.length < cs.length := by
  unfold literal? at h
  split at h
  · exact Nat.lt_succ_of_lt (unsigned?_shorter h)
  · exact unsigned?_shorter h

/-- A number, as a value. -/
def number (cs : List Char) : Option (Read Json cs) :=
  match found : literal? cs with
  | none => none
  | some (literal, rest) =>
    some ⟨(literal.number?.map Json.number).getD .unreadable, rest, literal?_shorter found⟩

/-! ### Sequences -/

/-- One or more items separated by commas, and the character that closes them. -/
def items {α : Type} (item : Reader α) (close : Char) (cs : List Char) :
    Option (Read (List α) cs) :=
  match item (skip cs) with
  | none => none
  | some first =>
    have taken : (skip first.rest).length < cs.length :=
      Nat.lt_of_le_of_lt (length_skip_le _)
        (Nat.lt_of_lt_of_le first.shorter (length_skip_le cs))
    match next : skip first.rest with
    | [] => none
    | c :: more =>
      have shorter : more.length < cs.length := by
        rw [next] at taken
        exact Nat.lt_of_succ_lt taken
      if c = close then some ⟨[first.value], more, shorter⟩
      else if c = ',' then
        match items item close more with
        | none => none
        | some others =>
          some ⟨first.value :: others.value, others.rest, Nat.lt_trans others.shorter shorter⟩
      else none
termination_by cs.length

/-- Any number of items separated by commas, and the character that closes them. -/
def sequence {α : Type} (item : Reader α) (close : Char) (cs : List Char) :
    Option (Read (List α) cs) :=
  match next : skip cs with
  | [] => none
  | c :: more =>
    if c = close then
      some ⟨[], more, by
        have := length_skip_le cs
        rw [next] at this
        exact this⟩
    else items item close cs

/-- A name, a colon and a value. -/
def member (item : Reader Json) (cs : List Char) : Option (Read (Option String × Json) cs) :=
  match string cs with
  | none => none
  | some name =>
    match next : skip name.rest with
    | [] => none
    | c :: more =>
      if c = ':' then
        match item (skip more) with
        | none => none
        | some read =>
          some ⟨(name.value, read.value), read.rest, by
            have first := length_skip_le name.rest
            have second := length_skip_le more
            have third := name.shorter
            have fourth := read.shorter
            rw [next, List.length_cons] at first
            omega⟩
      else none

/-- An object of members; one with a name that is no text holds no value. -/
def objectOf (members : List (Option String × Json)) : Json :=
  match members.mapM fun (name, item) => name.map (·, item) with
  | some members => .object members
  | none => .unreadable

/-! ### Values -/

/-- A word that stands for a value. -/
def word (spelling : List Char) (nonempty : spelling ≠ []) (j : Json) (cs : List Char) :
    Option (Read Json cs) :=
  match found : Text.after? spelling cs with
  | none => none
  | some rest =>
    some ⟨j, rest, by
      have := List.length_pos_iff.mpr nonempty
      rw [Text.after?_eq_some_iff.mp found, List.length_append]
      omega⟩

/-- A value that nests no deeper than the bound; blanks may not stand in front. -/
def value : Nat → (cs : List Char) → Option (Read Json cs)
  | _, [] => none
  | depth, c :: cs =>
    if c = '"' then
      (string (c :: cs)).map (Read.map fun text => (text.map Json.string).getD .unreadable)
    else if c = '[' then
      match depth with
      | 0 => none
      | depth + 1 =>
        (sequence (value depth) ']' cs).map fun r =>
          (r.map Json.array).widen (Nat.le_succ _)
    else if c = '\x7b' then
      match depth with
      | 0 => none
      | depth + 1 =>
        (sequence (member (value depth)) '\x7d' cs).map fun r =>
          (r.map objectOf).widen (Nat.le_succ _)
    else if c = 'n' then word "null".toList (by decide) .null (c :: cs)
    else if c = 't' then word "true".toList (by decide) (.boolean true) (c :: cs)
    else if c = 'f' then word "false".toList (by decide) (.boolean false) (c :: cs)
    else number (c :: cs)

end Workflow.Json.Reading

namespace Workflow.Json

/-- The value of a text that holds one value and blanks around it. -/
def parse? (text : String) : Option Json :=
  let cs := Reading.skip text.toList
  match Reading.value cs.length cs with
  | none => none
  | some r => if Reading.skip r.rest = [] then some r.value else none

end Workflow.Json
