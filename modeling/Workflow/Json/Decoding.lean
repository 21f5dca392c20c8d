import Workflow.Json.Reader
import Workflow.Table

/-!
# From JSON values to data

The rules by which values become texts, numbers, lists, tables and records.

## Main Definitions

* `Json.text?`, `Json.uint32?`, ... — values of one type.
* `Json.list?`, `Json.table?` — sequences, and objects as tables.
* `Json.record?` — the parts of a record with known member names.

## Design Notes

A record is an object with its member names, in any order and among others
that nobody asks for, or the sequence of its members in their fixed order.
Asking for a member that occurs twice is an error; in a table the last of
several entries counts.
-/

namespace Workflow.Json

/-- A text. -/
def text? : Json → Option String
  | .string s => some s
  | _ => none

/-- A truth value. -/
def boolean? : Json → Option Bool
  | .boolean b => some b
  | _ => none

/-- An integer. -/
def integer? : Json → Option Int
  | .number (.integer n) => some n
  | _ => none

/-- A signed 64-bit word. -/
def int64? (j : Json) : Option Int64 := j.integer?.bind Decimal.int64?

/-- A natural number below `bound`. -/
def natBelow? (bound : Nat) (j : Json) : Option Nat :=
  j.integer?.bind fun n => if 0 ≤ n ∧ n < bound then some n.toNat else none

/-- An unsigned 64-bit word. -/
def count? (j : Json) : Option Nat := j.natBelow? UInt64.size

/-- An unsigned 32-bit word. -/
def uint32? (j : Json) : Option UInt32 := (j.natBelow? UInt32.size).map UInt32.ofNat

/-- A double; integers go to the nearest. -/
def float? : Json → Option Float
  | .number (.float x) => some x
  | .number (.integer n) =>
    let x := Decimal.nearest n.natAbs 0
    some (if n < 0 then -x else x)
  | _ => none

/-- A sequence of items. -/
def list? {α : Type} (item : Json → Option α) : Json → Option (List α)
  | .array items => items.mapM item
  | _ => none

/-- An object as a table. -/
def table? {α : Type} (item : Json → Option α) : Json → Option (Table α)
  | .object members =>
    (members.mapM fun m => (item m.2).map (m.1, ·)).map Table.ofList
  | _ => none

/-- The member of a name: nothing when there is none, failure when there are several. -/
def member? (name : String) (members : List (String × Json)) : Option (Option Json) :=
  match members.filter (·.1 == name) with
  | [] => some none
  | [found] => some (some found.2)
  | _ => none

/-- The members of a record in the order of their names. -/
def record? (names : List String) : Json → Option (List (Option Json))
  | .object members => names.mapM fun name => member? name members
  | .array items =>
    if items.length ≤ names.length then
      some (items.map some ++ List.replicate (names.length - items.length) none)
    else none
  | _ => none

/-- A member that must be there. -/
def required? {α : Type} (item : Json → Option α) (j : Option Json) : Option α := j.bind item

/-- A member with a default. -/
def optional? {α : Type} (item : Json → Option α) (default : α) : Option Json → Option α
  | none => some default
  | some j => item j

/-- A value or `null`. -/
def nullable? {α : Type} (item : Json → Option α) : Json → Option (Option α)
  | .null => some none
  | j => (item j).map some

/-- A text or `null`. -/
def ofText? : Option String → Json
  | none => .null
  | some s => .string s

/-- A sequence of texts. -/
def ofTexts (texts : List String) : Json := .array (texts.map .string)

/-- A table as an object with its names in order. -/
def ofTable {α : Type} (item : α → Json) (t : Table α) : Json :=
  .object (t.entries.map fun e => (e.1, item e.2))

end Workflow.Json
