import Workflow.Json.Reader
import Workflow.Proofs.Lexer.Lexeme

/-!
# The grammar of JSON

What texts a value is written as.  The grammar does not say how a text is read: it has no
place in the text, no bound for the nesting, and puts up with blanks wherever they may stand.

## Main Definitions

* `Json.Quoted` — a string between quotes.
* `Json.Literal.Written` — the text of a number.
* `Json.Sequence` — items between commas, up to the mark that closes them.
* `Json.Written` — the text of a value.
* `Json.Holds` — a text holds a value.

## Design Notes

Strings are sequences of code units first and texts second, because half of a surrogate pair
is well-formed in a string that nobody asks for.  The value of a literal is left to
`Literal.number?`: two literals may be one number, and some are none.
-/

namespace Workflow.Json

open Lexer (Digits)

/-- Blanks between the parts of a text. -/
def Blanks (cs : List Char) : Prop := ∀ c ∈ cs, Reading.isSpace c = true

/-! ### Strings -/

/-- The letters that follow a backslash, and the characters that they stand for. -/
def escapes : List (Char × Char) :=
  [('"', '"'), ('\\', '\\'), ('/', '/'), ('b', '\x08'), ('f', '\x0c'), ('n', '\n'), ('r', '\r'),
    ('t', '\t')]

/-- Code units, and how they are written between the quotes of a string. -/
inductive Body : List Nat → List Char → Prop
  | nil : Body [] []
  /-- Most characters stand for themselves. -/
  | plain {c : Char} {units : List Nat} {body : List Char} (visible : 0x20 ≤ c.toNat)
      (noQuote : c ≠ '"') (noBackslash : c ≠ '\\') (others : Body units body) :
      Body (c.toNat :: units) (c :: body)
  /-- A backslash and a letter stand for a character. -/
  | escape {e c : Char} {units : List Nat} {body : List Char} (known : (e, c) ∈ escapes)
      (others : Body units body) : Body (c.toNat :: units) ('\\' :: e :: body)
  /-- Four digits name a unit. -/
  | numeric {a b c d : Char} {n : Nat} {units : List Nat} {body : List Char}
      (known : Reading.hex4? a b c d = some n) (others : Body units body) :
      Body (n :: units) ('\\' :: 'u' :: a :: b :: c :: d :: body)

/-- A string: its text, if its units are one, and how it is written. -/
def Quoted (text : Option String) (w : List Char) : Prop :=
  ∃ units body, Body units body ∧ w = '"' :: (body ++ ['"']) ∧
    text = (Reading.charsOfUnits? units).map String.ofList

/-! ### Numbers -/

/-- The fraction of a number. -/
inductive FractionText : Option (List Char) → List Char → Prop
  | none : FractionText none []
  | some {ds : List Char} (digits : Digits ds) : FractionText (some ds) ('.' :: ds)

/-- The exponent of a number. -/
inductive ExponentText : Option (Bool × List Char) → List Char → Prop
  | none : ExponentText none []
  | some {negative : Bool} {mark : Char} {sign ds : List Char} (marked : mark = 'e' ∨ mark = 'E')
      (signed : (negative, sign) ∈ [(false, []), (false, ['+']), (true, ['-'])])
      (digits : Digits ds) : ExponentText (some (negative, ds)) (mark :: (sign ++ ds))

/-- How a literal is written.  No zero leads other digits. -/
inductive Literal.Written : Literal → List Char → Prop
  | mk {negative : Bool} {sign whole : List Char} {fraction : Option (List Char)}
      {exponent : Option (Bool × List Char)} {f e : List Char}
      (signed : (negative, sign) ∈ [(false, []), (true, ['-'])]) (digits : Digits whole)
      (proper : whole.head? = some '0' → whole = ['0']) (fractioned : FractionText fraction f)
      (exponented : ExponentText exponent e) :
      Literal.Written ⟨negative, whole, fraction, exponent⟩ (sign ++ (whole ++ (f ++ e)))

/-! ### Sequences -/

section Sequences

variable {α : Type} (r : α → List Char → Prop) (close : Char)

/-- One or more items with commas between them, and the mark that closes them. -/
inductive Separated : List α → List Char → Prop
  | last {x : α} {a w b : List Char} (before : Blanks a) (item : r x w) (behind : Blanks b) :
      Separated [x] (a ++ (w ++ (b ++ [close])))
  | more {x : α} {xs : List α} {a w b cs : List Char} (before : Blanks a) (item : r x w)
      (behind : Blanks b) (others : Separated xs cs) :
      Separated (x :: xs) (a ++ (w ++ (b ++ ',' :: cs)))

/-- Any number of items with commas between them, and the mark that closes them. -/
inductive Sequence : List α → List Char → Prop
  | empty {a : List Char} (blank : Blanks a) : Sequence [] (a ++ [close])
  | items {xs : List α} {cs : List Char} (separated : Separated r close xs cs) : Sequence xs cs

end Sequences

/-- A member of an object: a name, a colon and a value. -/
inductive Member (r : Json → List Char → Prop) : Option String × Json → List Char → Prop
  | mk {name : Option String} {j : Json} {q a b w : List Char} (named : Quoted name q)
      (before : Blanks a) (behind : Blanks b) (value : r j w) :
      Member r (name, j) (q ++ (a ++ ':' :: (b ++ w)))

/-! ### Values -/

/-- How a value is written. -/
inductive Written : Json → List Char → Prop
  | null : Written .null "null".toList
  | true : Written (.boolean true) "true".toList
  | false : Written (.boolean false) "false".toList
  | number {l : Literal} {w : List Char} (literal : l.Written w) :
      Written ((l.number?.map .number).getD .unreadable) w
  | string {text : Option String} {w : List Char} (quoted : Quoted text w) :
      Written ((text.map .string).getD .unreadable) w
  | array {items : List Json} {w : List Char} (sequence : Sequence Written ']' items w) :
      Written (.array items) ('[' :: w)
  | object {members : List (Option String × Json)} {w : List Char}
      (sequence : Sequence (Member Written) '\x7d' members w) :
      Written (Reading.objectOf members) ('\x7b' :: w)

/-- The text holds one value, and blanks around it. -/
def Holds (text : String) (j : Json) : Prop :=
  ∃ a w b, text.toList = a ++ (w ++ b) ∧ Blanks a ∧ Written j w ∧ Blanks b

end Workflow.Json
