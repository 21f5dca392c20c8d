import Workflow.Text.Lowercase
import Workflow.Text.VisibleData

/-!
# Quoted texts

Listings show labels, conditions and node ids between double quotes, so that
blanks, quotes and characters without a picture can be told apart.

## Main Definitions

* `quote` — a text between double quotes, everything invisible escaped.
* `quoteList` — several quoted texts between brackets.
-/

namespace Workflow.Text

/-- The digits of a code point in lower-case hexadecimal. -/
def hexDigits (n : Nat) : List Char := Nat.toDigits 16 n

/-- A character inside quotes: itself when visible, else an escape. -/
def quoteChar (c : Char) : List Char :=
  if c = '\x00' then ['\\', '0']
  else if c = '\t' then ['\\', 't']
  else if c = '\r' then ['\\', 'r']
  else if c = '\n' then ['\\', 'n']
  else if c = '\\' then ['\\', '\\']
  else if c = '"' then ['\\', '"']
  else if inRanges visibleRanges c then [c]
  else ['\\', 'u', '\x7b'] ++ hexDigits c.toNat ++ ['\x7d']

/-- A text between double quotes. -/
def quote (text : String) : String :=
  String.ofList ('"' :: (text.toList.flatMap quoteChar ++ ['"']))

/-- Quoted texts between brackets. -/
def quoteList (texts : List String) : String :=
  "[" ++ String.intercalate ", " (texts.map quote) ++ "]"

end Workflow.Text
